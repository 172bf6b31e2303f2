import TicketQuery.Proofs.TemplateMarks

/-! # Names that hide a quote

If a backslash in the name of a collection hides a quote, the quotes of the template are paired
otherwise from there on, and its end always comes to stand within quotes. So the values are in their
places if and only if the name keeps its quotes. -/
namespace TicketQuery

theorem splitQuoted_of_not_mem {close : Char} {cs : List Char} (h : close ∉ cs) (escaped : Bool) :
    splitQuoted close escaped cs = (cs, []) := by
  induction cs generalizing escaped with
  | nil => cases escaped <;> rfl
  | cons c cs ih =>
    simp only [List.mem_cons, not_or] at h
    cases escaped with
    | true => simp [splitQuoted, ih h.2]
    | false => rw [splitQuoted_of_ne fun he => h.1 he.symm, ih h.2]

theorem suffix_toList_append (s t : String) : t.toList <:+ (s ++ t).toList := by
  rw [String.toList_append]
  exact List.suffix_append ..

/-- The last token is in quotes and ends with the given characters. -/
def EndsInQuotes (ending : List Char) (ts : List TemplateToken) : Prop :=
  ∃ w, ts.getLast? = some (.quoted w) ∧ ending <:+ w

namespace EndsInQuotes

variable {ending : List Char}

theorem append {ts : List TemplateToken} (h : EndsInQuotes ending ts) (us : List TemplateToken) :
    EndsInQuotes ending (us ++ ts) := by
  obtain ⟨w, hw, he⟩ := h
  exact ⟨w, by rw [List.getLast?_append, hw, Option.some_or], he⟩

theorem cons {ts : List TemplateToken} (h : EndsInQuotes ending ts) (t : TemplateToken) :
    EndsInQuotes ending (t :: ts) := h.append [t]

theorem singleton {w : List Char} (h : ending <:+ w) : EndsInQuotes ending [.quoted w] :=
  ⟨w, rfl, h⟩

theorem of_cons {t : TemplateToken} {ts : List TemplateToken} (h : EndsInQuotes ending (t :: ts))
    (ht : ∀ w, t ≠ .quoted w) : EndsInQuotes ending ts := by
  obtain ⟨w, hw, he⟩ := h
  cases ts with
  | nil => exact absurd (Option.some.inj hw) (ht w)
  | cons u us => exact ⟨w, by rwa [List.getLast?_cons_cons] at hw, he⟩

/-- What is in quotes at the end is kept. -/
theorem suffix_of_fillAll {values : List String} {taken : Nat} {ts : List TemplateToken}
    (h : EndsInQuotes ending ts) {s : String}
    (hs : TemplatePart.fillAll values (templateParts taken ts) = some s) : ending <:+ s.toList := by
  fun_induction templateParts taken ts generalizing s with
  | case1 =>
    obtain ⟨w, hw, -⟩ := h
    cases hw
  | case2 taken ts ih =>
    obtain ⟨v, u, -, hu, rfl⟩ := TemplatePart.fillAll_cons_eq_some hs
    have hts := (h.of_cons (by simp)).of_cons (by simp)
    exact (ih hts hu).trans (suffix_toList_append v u)
  | case3 taken w ts n hn ih =>
    obtain ⟨v, u, -, hu, rfl⟩ := TemplatePart.fillAll_cons_eq_some hs
    have hts := (h.of_cons (by simp)).of_cons (by simp)
    exact (ih hts hu).trans (suffix_toList_append v u)
  | case4 taken w ts hn ih => exact ih ((h.of_cons (by simp)).of_cons (by simp)) hs
  | case5 taken ts _ _ ih =>
    obtain ⟨v, u, -, hu, rfl⟩ := TemplatePart.fillAll_cons_eq_some hs
    exact (ih (h.of_cons (by simp)) hu).trans (suffix_toList_append v u)
  | case6 taken t ts _ _ _ ih =>
    obtain ⟨v, u, hv, hu, rfl⟩ := TemplatePart.fillAll_cons_eq_some hs
    cases hv
    obtain ⟨w, hw, he⟩ := h
    cases ts with
    | nil =>
      cases hw
      cases hu
      simpa [TemplateToken.text] using he
    | cons t' ts =>
      have hts : EndsInQuotes ending (t' :: ts) := ⟨w, by rwa [List.getLast?_cons_cons] at hw, he⟩
      exact (ih hts hu).trans (suffix_toList_append _ u)

end EndsInQuotes

/-- How a template goes on behind the quotes of a name: no quote comes any more, and its end is in
quotes even if an apostrophe is open. -/
structure IsTrap (ending tail : List Char) : Prop where
  not_mem : ∀ c ∈ ['"', ']', '\x60'], c ∉ tail
  suffix : ending <:+ tail
  apostrophe : EndsInQuotes ending (templateTokens (splitQuoted '\x27' false tail).2)

/-- What quotes that were opened in a name hold, and what follows them, if the end of the template
comes to stand within quotes: they reach to the end, or end in the name, or behind it. -/
inductive IsTrapped (ending tail : List Char) : List Char × List Char → Prop where
  | toEnd {w : List Char} (h : ending <:+ w) : IsTrapped ending tail (w, [])
  | within (w ds : List Char) : IsTrapped ending tail (w, doubledQuotes ds ++ '"' :: tail)
  | behind (w : List Char) {rest : List Char} (h : EndsInQuotes ending (templateTokens rest)) :
      IsTrapped ending tail (w, rest)

variable {ending tail : List Char}

namespace IsTrapped

variable {r : List Char × List Char}

theorem cons (h : IsTrapped ending tail r) (c : Char) :
    IsTrapped ending tail (c :: r.1, r.2) := by
  cases h with
  | toEnd h => exact .toEnd (h.trans (List.suffix_cons c _))
  | within w ds => exact .within _ ds
  | behind w h => exact .behind _ h

theorem endsInQuotes (h : IsTrapped ending tail r) (c : Char)
    (hr : ∀ ds, doubledQuotes ds ++ '"' :: tail = r.2 → EndsInQuotes ending (templateTokens r.2)) :
    EndsInQuotes ending (.quoted (c :: r.1) :: templateTokens r.2) := by
  cases h with
  | @toEnd w h =>
    rw [templateTokens]
    exact .singleton (h.trans (List.suffix_cons c w))
  | within w ds => exact (hr ds rfl).cons _
  | behind w h => exact h.cons _

end IsTrapped

namespace IsTrap

theorem split_quote (h : IsTrap ending tail) (escaped : Bool) :
    splitQuoted '"' escaped tail = (tail, []) :=
  splitQuoted_of_not_mem (h.not_mem _ (by decide)) escaped

/-- Within quotes, from the second quote of a pair on. -/
theorem isTrapped_second (h : IsTrap ending tail) (ds : List Char) :
    IsTrapped ending tail
      (splitQuoted '"' false ('"' :: (doubledQuotes ds ++ '"' :: tail))) := by
  induction ds with
  | nil =>
    have hs : splitQuoted '"' false ('"' :: '"' :: tail) = ('"' :: '"' :: tail, []) := by
      simp [splitQuoted, h.split_quote]
    exact hs ▸ .toEnd ((h.suffix.trans (List.suffix_cons _ _)).trans (List.suffix_cons _ _))
  | cons d ds ih =>
    by_cases hd : d = '"'
    · subst hd
      -- The quote that stood second makes a pair with the first of the next two.
      have hs : splitQuoted '"' false ('"' :: (doubledQuotes ('"' :: ds) ++ '"' :: tail)) =
          let r := splitQuoted '"' false ('"' :: (doubledQuotes ds ++ '"' :: tail))
          ('"' :: '"' :: r.1, r.2) := by
        simp [doubledQuotes, splitQuoted]
      exact hs ▸ (ih.cons '"').cons '"'
    · have hs : splitQuoted '"' false ('"' :: (doubledQuotes (d :: ds) ++ '"' :: tail)) =
          (['"'], doubledQuotes (d :: ds) ++ '"' :: tail) := by
        simp [doubledQuotes_cons_of_ne hd, splitQuoted, hd]
      exact hs ▸ .within _ (d :: ds)

/-- Within the quotes of the name, if one of its quotes is hidden. -/
theorem isTrapped_name (h : IsTrap ending tail) {cs : List Char} {escaped : Bool}
    (hcs : hidesNoQuote escaped cs = false) :
    IsTrapped ending tail
      (splitQuoted '"' escaped (doubledQuotes cs ++ '"' :: tail)) := by
  induction cs generalizing escaped with
  | nil =>
    obtain rfl : escaped = true := by simpa [hidesNoQuote] using hcs
    have hs : splitQuoted '"' true ('"' :: tail) = ('"' :: tail, []) := by
      simp [splitQuoted, h.split_quote]
    exact hs ▸ .toEnd (h.suffix.trans (List.suffix_cons _ _))
  | cons c cs ih =>
    by_cases hc : c = '"'
    · subst hc
      cases escaped with
      | true =>
        have hs : splitQuoted '"' true (doubledQuotes ('"' :: cs) ++ '"' :: tail) =
            let r := splitQuoted '"' false ('"' :: (doubledQuotes cs ++ '"' :: tail))
            ('"' :: r.1, r.2) := by
          simp [doubledQuotes, splitQuoted]
        exact hs ▸ (h.isTrapped_second cs).cons '"'
      | false =>
        have hs : splitQuoted '"' false (doubledQuotes ('"' :: cs) ++ '"' :: tail) =
            let r := splitQuoted '"' false (doubledQuotes cs ++ '"' :: tail)
            ('"' :: '"' :: r.1, r.2) := by
          simp [doubledQuotes, splitQuoted]
        have hr := @ih false (by simpa [hidesNoQuote] using hcs)
        exact hs ▸ (hr.cons '"').cons '"'
    · rw [doubledQuotes_cons_of_ne hc, List.cons_append]
      cases escaped with
      | true =>
        have hr := @ih false (by simpa [hidesNoQuote, hc] using hcs)
        simpa [splitQuoted] using hr.cons c
      | false =>
        rw [splitQuoted_of_ne hc]
        exact (ih hcs).cons c

/-- Within other quotes, whose closing quote means nothing to the name. The induction also meets the
closing quote itself, which may be the first of two. -/
theorem isTrapped_of_ne {close : Char} (hclose : close ≠ '"')
    (ht : IsTrapped ending tail (splitQuoted close false tail)) (ds : List Char) :
    (∀ escaped, IsTrapped ending tail
        (splitQuoted close escaped (doubledQuotes ds ++ '"' :: tail))) ∧
      IsTrapped ending tail
        (splitQuoted close false (close :: (doubledQuotes ds ++ '"' :: tail))) := by
  have hquote : '"' ≠ close := hclose.symm
  have hpass : ∀ (escaped : Bool) (cs : List Char), splitQuoted close escaped ('"' :: cs) =
      ('"' :: (splitQuoted close false cs).1, (splitQuoted close false cs).2) := by
    intro escaped cs
    cases escaped with
    | true => rfl
    | false =>
      rw [splitQuoted_of_ne hquote]
      rfl
  induction ds with
  | nil =>
    constructor
    · intro escaped
      have hs : splitQuoted close escaped (doubledQuotes [] ++ '"' :: tail) = _ :=
        hpass escaped tail
      exact hs ▸ ht.cons '"'
    · have hs : splitQuoted close false (close :: '"' :: tail) = ([close], '"' :: tail) := by
        simp [splitQuoted, hquote]
      exact hs ▸ .within [close] []
  | cons d ds ih =>
    constructor
    · intro escaped
      by_cases hd : d = '"'
      · subst hd
        have hs : splitQuoted close escaped (doubledQuotes ('"' :: ds) ++ '"' :: tail) =
            let r := splitQuoted close false (doubledQuotes ds ++ '"' :: tail)
            ('"' :: '"' :: r.1, r.2) := by
          simp [doubledQuotes, hpass]
        exact hs ▸ ((ih.1 false).cons '"').cons '"'
      · rw [doubledQuotes_cons_of_ne hd, List.cons_append]
        cases escaped with
        | true => simpa [splitQuoted] using (ih.1 false).cons d
        | false =>
          by_cases hc : d = close
          · subst hc
            exact ih.2
          · rw [splitQuoted_of_ne hc]
            exact (ih.1 _).cons d
    · by_cases hd : d = close ∧ close ≠ ']'
      · obtain ⟨rfl, hb⟩ := hd
        have hs : splitQuoted d false (d :: (doubledQuotes (d :: ds) ++ '"' :: tail)) =
            let r := splitQuoted d false (doubledQuotes ds ++ '"' :: tail)
            (d :: d :: r.1, r.2) := by
          simp [doubledQuotes_cons_of_ne hclose, splitQuoted, hb]
        exact hs ▸ ((ih.1 false).cons d).cons d
      · have hs : splitQuoted close false (close :: (doubledQuotes (d :: ds) ++ '"' :: tail)) =
            ([close], doubledQuotes (d :: ds) ++ '"' :: tail) := by
          by_cases hq : d = '"'
          · subst hq
            simp [doubledQuotes, splitQuoted, hquote]
          · rw [doubledQuotes_cons_of_ne hq, List.cons_append]
            simp [splitQuoted, hd]
        exact hs ▸ .within _ (d :: ds)

/-- Behind the name, the template has no other quotes than apostrophes. -/
theorem isTrapped_tail (h : IsTrap ending tail) {c close : Char}
    (hc : closingQuote? c = some close) (hne : c ≠ '"') :
    close ≠ '"' ∧ IsTrapped ending tail (splitQuoted close false tail) := by
  unfold closingQuote? at hc
  split at hc <;> cases hc
  · have hm := h.not_mem '\x60' (by decide)
    exact ⟨by decide, splitQuoted_of_not_mem hm false ▸ .toEnd h.suffix⟩
  · have hm := h.not_mem ']' (by decide)
    exact ⟨by decide, splitQuoted_of_not_mem hm false ▸ .toEnd h.suffix⟩
  · exact ⟨by decide, .behind _ h.apostrophe⟩
  · exact absurd rfl hne

theorem exists_dropWhile {p : Char → Bool} (hp : p '"' = false) (ds : List Char) :
    ∃ ds', doubledQuotes ds' ++ '"' :: tail = (doubledQuotes ds ++ '"' :: tail).dropWhile p := by
  induction ds with
  | nil => exact ⟨[], by simp [doubledQuotes, hp]⟩
  | cons d ds ih =>
    by_cases hd : p d = true
    · have hne : d ≠ '"' := by
        rintro rfl
        exact absurd hd (by simp [hp])
      simpa [doubledQuotes_cons_of_ne hne, hd] using ih
    · refine ⟨d :: ds, ?_⟩
      by_cases hq : d = '"'
      · simp [hq, doubledQuotes, hp]
      · simp [doubledQuotes_cons_of_ne hq, hd]

/-- Outside of quotes. -/
theorem endsInQuotes (h : IsTrap ending tail) (ds : List Char) :
    EndsInQuotes ending (templateTokens (doubledQuotes ds ++ '"' :: tail)) := by
  generalize hs : doubledQuotes ds ++ '"' :: tail = source
  fun_induction templateTokens source generalizing ds with
  | case1 => simp at hs
  | case2 c cs r ih =>
    have hquote : c = '"' → IsTrapped ending tail (splitQuoted '"' false cs) →
        EndsInQuotes ending (r.1 :: templateTokens r.2) := by
      rintro rfl ht
      exact ht.endsInQuotes '"' ih
    cases ds with
    | nil =>
      obtain ⟨rfl, rfl⟩ := List.cons.inj hs
      exact hquote rfl (h.split_quote false ▸ .toEnd h.suffix)
    | cons d ds =>
      by_cases hd : d = '"'
      · subst hd
        obtain ⟨rfl, rfl⟩ := List.cons.inj hs
        exact hquote rfl (h.isTrapped_second ds)
      · rw [doubledQuotes_cons_of_ne hd, List.cons_append] at hs
        obtain ⟨rfl, rfl⟩ := List.cons.inj hs
        simp only [r, TemplateToken.read] at ih ⊢
        by_cases hb : isTemplateBlank d = true
        · simp only [hb, if_true] at ih ⊢
          obtain ⟨ds', hds⟩ := exists_dropWhile (p := isTemplateBlank) (by decide) ds
          exact (ih ds' hds).cons _
        · by_cases hw : isWordStart d = true
          · simp only [hb, hw, Bool.false_eq_true, if_false, if_true] at ih ⊢
            obtain ⟨ds', hds⟩ := exists_dropWhile (p := isWordChar) (by decide) ds
            exact (ih ds' hds).cons _
          · simp only [hb, hw, Bool.false_eq_true, if_false] at ih ⊢
            cases hq : closingQuote? d with
            | none =>
              simp only [hq] at ih
              exact (ih ds rfl).cons _
            | some close =>
              simp only [hq] at ih
              obtain ⟨hclose, ht⟩ := h.isTrapped_tail hq hd
              exact ((isTrapped_of_ne hclose ht ds).1 false).endsInQuotes d ih

/-- If a quote of the name is hidden, the end of the whole template stands within quotes. -/
theorem endsInQuotes_sqlName (h : IsTrap ending tail) {name : String} (hname : ¬ KeepsQuotes name) :
    EndsInQuotes ending (templateTokens ((sqlName name).toList ++ tail)) := by
  have hname : hidesNoQuote false name.toList = false := Bool.eq_false_iff.2 hname
  have hs : (sqlName name).toList ++ tail = '"' :: (doubledQuotes name.toList ++ '"' :: tail) := by
    simp [toList_sqlName]
  have hread : TemplateToken.read '"' (doubledQuotes name.toList ++ '"' :: tail) =
      let r := splitQuoted '"' false (doubledQuotes name.toList ++ '"' :: tail)
      (.quoted ('"' :: r.1), r.2) := rfl
  rw [hs, templateTokens, hread]
  refine (h.isTrapped_name hname).endsInQuotes '"' fun ds hds => ?_
  exact hds ▸ h.endsInQuotes ds

end IsTrap

namespace SqlTest

/-- The test of a member behind the name of its collection. -/
def memberTail (numeric : Bool) (op : SqlOperator) (name operand : String) : String :=
  memberStart numeric ++
    (name ++ (memberMiddle numeric ++ (op.symbol ++ (" " ++ (operand ++ ")")))))

/-- The test of a member with its name and the operand. -/
def memberText (collection : String) (numeric : Bool) (op : SqlOperator) (name operand : String) :
    String :=
  "EXISTS (SELECT 1 FROM jsonb_array_elements(" ++
    (sqlName collection ++ memberTail numeric op name operand)

theorem memberText_eq (collection : String) (numeric : Bool) (op : SqlOperator)
    (name operand : String) : memberText collection numeric op name operand =
      "EXISTS (SELECT 1 FROM jsonb_array_elements(" ++
        (sqlName collection ++ memberTail numeric op name operand) := rfl

section

variable (numeric : Bool) (op : SqlOperator)

theorem templateTokens_apostrophe {w : List Char} (h : '\x27' ∉ w) :
    templateTokens ('\x27' :: w) = [.quoted ('\x27' :: w)] := by
  have hr : TemplateToken.read '\x27' w =
      (.quoted ('\x27' :: (splitQuoted '\x27' false w).1), (splitQuoted '\x27' false w).2) := rfl
  rw [templateTokens, hr, splitQuoted_of_not_mem h, templateTokens]

/-- With an apostrophe open, the last apostrophe of the test opens quotes. -/
theorem endsInQuotes_memberTail : EndsInQuotes "$2)".toList
    (templateTokens (splitQuoted '\x27' false (memberTail numeric op "$1" "$2").toList).2) := by
  obtain ⟨inner, last, w, hm, hinner, hlast, hw⟩ : ∃ (inner last : String) (w : List Char),
      memberMiddle numeric = inner ++ last ∧
      (templateTokens (splitQuoted '\x27' false
        (memberStart numeric ++ ("$1" ++ inner)).toList).2).getLast? =
        some (.word "value".toList) ∧
      last.toList = '\x27' :: w ∧ '\x27' ∉ w := by
    cases numeric with
    | true =>
      exact ⟨" AND jsonb_typeof(cf->'value') = 'number' THEN CAST(cf->>'value",
        "' AS numeric) END ", " AS numeric) END ".toList, by decide +kernel, by decide +kernel,
        by decide +kernel, by decide +kernel⟩
    | false =>
      exact ⟨" AND cf->>'value", "' ", [' '], by decide +kernel, by decide +kernel,
        by decide +kernel, by decide +kernel⟩
  have htail : (memberTail numeric op "$1" "$2").toList =
      (memberStart numeric ++ ("$1" ++ inner)).toList ++
        '\x27' :: (w ++ (op.symbol ++ (" " ++ "$2)")).toList) := by
    have h₂ : "$2" ++ ")" = "$2)" := rfl
    simp [memberTail, hm, hlast, h₂]
  have hback : '\x27' ∉ w ++ (op.symbol ++ (" " ++ "$2)")).toList := by
    have hop : '\x27' ∉ op.symbol.toList := by cases op <;> decide
    simp [hw, hop]
  have hne : (splitQuoted '\x27' false (memberStart numeric ++ ("$1" ++ inner)).toList).2 ≠ [] := by
    intro he
    rw [he, templateTokens] at hinner
    cases hinner
  rw [htail, splitQuoted_append_right hne, templateTokens_append, templateTokens_apostrophe hback]
  · have hend : "$2)".toList <:+ (op.symbol ++ (" " ++ "$2)")).toList :=
      (suffix_toList_append _ _).trans (suffix_toList_append _ _)
    exact (EndsInQuotes.singleton ((hend.trans (List.suffix_append ..)).trans
      (List.suffix_cons ..))).append _
  · intro t ht c rest hc
    cases hinner.symm.trans ht
    cases hc
    decide

theorem isTrap_memberTail : IsTrap "$2)".toList (memberTail numeric op "$1" "$2").toList where
  not_mem := by
    have hs : '"' ∉ (memberStart numeric).toList ∧ ']' ∉ (memberStart numeric).toList ∧
        '\x60' ∉ (memberStart numeric).toList := by
      cases numeric <;> decide +kernel
    have hm : '"' ∉ (memberMiddle numeric).toList ∧ ']' ∉ (memberMiddle numeric).toList ∧
        '\x60' ∉ (memberMiddle numeric).toList := by
      cases numeric <;> decide +kernel
    have hop : '"' ∉ op.symbol.toList ∧ ']' ∉ op.symbol.toList ∧ '\x60' ∉ op.symbol.toList := by
      cases op <;> decide +kernel
    simp [memberTail, hs, hm, hop]
  suffix := by
    iterate 5 refine List.IsSuffix.trans ?_ (suffix_toList_append _ _)
    decide +kernel
  apostrophe := endsInQuotes_memberTail numeric op

end

/-- A value is no mark. -/
theorem not_suffix_toSql (v : SqlValue) (s : String) :
    ¬ "$2)".toList <:+ (s ++ (" " ++ (v.toSql ++ ")"))).toList := by
  have hend : ∀ {t : List Char} {c : Char}, c ∈ t → c ∉ "$2)".toList → '$' ∉ t →
      t <:+ (s ++ (" " ++ (v.toSql ++ ")"))).toList →
        ¬ "$2)".toList <:+ (s ++ (" " ++ (v.toSql ++ ")"))).toList := by
    intro t c hc hm ht hs h
    rcases List.suffix_or_suffix_of_suffix h hs with h | h
    · exact ht (h.subset (by decide))
    · exact hm (h.subset hc)
  cases v with
  | integer n =>
    have hn : '$' ∉ n.repr.toList := by
      intro hm
      cases n with
      | ofNat n => exact absurd (isDigit_of_mem_repr hm) (by decide)
      | negSucc n =>
        rw [toList_repr_negSucc, List.mem_cons] at hm
        rcases hm with hm | hm
        · exact absurd hm (by decide)
        · exact absurd (isDigit_of_mem_repr hm) (by decide)
    refine hend (t := (" " ++ (n.repr ++ ")")).toList) (c := ' ') ?_ (by decide) ?_
      (suffix_toList_append ..)
    · simp
    · simp [hn]
  | text t =>
    refine hend (t := ['\x27', ')']) (c := '\x27') (by decide) (by decide) (by decide) ?_
    have ht : ['\x27', ')'] <:+ ((SqlValue.text t).toSql ++ ")").toList := by
      have hq : ((SqlValue.text t).toSql ++ ")").toList =
          (if '\\' ∈ sqlEscaped t then ['E'] else []) ++ '\x27' :: sqlEscaped t ++
            ['\x27', ')'] := by
        simp [SqlValue.toSql, toList_sqlString]
      exact hq ▸ List.suffix_append ..
    exact (ht.trans (suffix_toList_append ..)).trans (suffix_toList_append ..)

theorem memberTemplate_eq_memberText (collection : String) (op : SqlOperator) (operand : SqlValue) :
    memberTemplate collection op operand =
      memberText collection operand.isInteger op "$1" "$2" := by
  rw [memberTemplate_eq, memberText_eq, memberTail]

/-- If a quote of the name is hidden, the mark of the operand is left. -/
theorem suffix_toSql_member {collection : String} (h : ¬ KeepsQuotes collection) {name : String}
    {op : SqlOperator} {operand : SqlValue} {sql : String}
    (hs : (member collection name op operand).toSql = some sql) :
    "$2)".toList <:+ sql.toList := by
  have hends := (isTrap_memberTail operand.isInteger op).endsInQuotes_sqlName h
  have hopen : IsPlainBefore '"' "EXISTS (SELECT 1 FROM jsonb_array_elements(" := by decide +kernel
  have hhead : ((sqlName collection).toList ++
      (memberTail operand.isInteger op "$1" "$2").toList).head? = some '"' := by
    simp [toList_sqlName]
  rw [toSql, memberTemplate_eq_memberText, fillTemplate_eq, memberText_eq, String.toList_append,
    String.toList_append, hopen.templateTokens_append hhead] at hs
  exact (hends.append _).suffix_of_fillAll hs

theorem toSql_member_eq_iff (collection name : String) (op : SqlOperator) (operand : SqlValue) :
    (member collection name op operand).toSql =
        some (memberText collection operand.isInteger op (sqlString name) operand.toSql) ↔
      KeepsQuotes collection := by
  constructor
  · intro h
    refine Decidable.byContradiction fun hk => ?_
    have hs := suffix_toSql_member hk h
    have htext : memberText collection operand.isInteger op (sqlString name) operand.toSql =
        "EXISTS (SELECT 1 FROM jsonb_array_elements(" ++ sqlName collection ++
          memberStart operand.isInteger ++ sqlString name ++ memberMiddle operand.isInteger ++
            op.symbol ++ (" " ++ (operand.toSql ++ ")")) := by
      simp only [memberText_eq, memberTail, String.append_assoc]
    rw [htext] at hs
    exact not_suffix_toSql operand _ hs
  · intro h
    rw [toSql_member h, memberText_eq, memberTail]

end SqlTest

namespace SqlCondition

theorem toSql_test (t : SqlTest) : (test t).toSql = t.toSql := by
  cases h : t.toSql <;> simp [toSql, pieces, SqlPiece.toSql, h]

/-- The condition on a member is its template with the name and the operand in the places of the
marks, if and only if no backslash hides a quote of the collection's name. -/
theorem toSql_ofFilter_custom_eq_iff (ignoreCase : Bool) (collection name : String)
    (op : Comparison) (v : Literal) :
    let symbol := SqlOperator.ofComparison ignoreCase op
    let text := SqlTest.memberText collection (operand op v).isInteger symbol
    SqlTest.memberTemplate collection symbol (operand op v) = text "$1" "$2" ∧
      ((ofFilter ignoreCase (.custom collection name op v)).toSql =
        some (text (sqlString name) (operand op v).toSql) ↔ KeepsQuotes collection) := by
  refine ⟨SqlTest.memberTemplate_eq_memberText .., ?_⟩
  rw [ofFilter, toSql_test]
  exact SqlTest.toSql_member_eq_iff ..

/-- With a backslash at the end of the collection's name, both marks are left. -/
theorem not_forall_toSql_ofFilter_custom : ¬ ∀ (ignoreCase : Bool) (collection name : String)
    (op : Comparison) (v : Literal), (ofFilter ignoreCase (.custom collection name op v)).toSql =
      some (SqlTest.memberText collection (operand op v).isInteger
        (.ofComparison ignoreCase op) (sqlString name) (operand op v).toSql) := by
  intro h
  have hne : (ofFilter true (.custom "a\\" "points" .eq (.text "x"))).toSql ≠
      some (SqlTest.memberText "a\\" false .eq (sqlString "points") (sqlString "x")) := by
    decide +kernel
  exact hne (h true "a\\" "points" .eq (.text "x"))

end SqlCondition

end TicketQuery
