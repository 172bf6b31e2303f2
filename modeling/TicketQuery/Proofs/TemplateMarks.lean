import TicketQuery.Proofs.MemberTest

/-! # Filling a template whatever the collection is called

A backslash in the name of the collection makes the template read the quotes behind it otherwise:
marks in the name are filled and marks of the test are left. The name stays one quoted name all the
same if the values have no quote in them, since marks have none either. -/
namespace TicketQuery

/-- The second text is the first with values put in the place of marks. Some marks may be left,
which stand within quotes. -/
inductive IsFilled (values : List String) : List Char → List Char → Prop where
  | nil : IsFilled values [] []
  | kept (c : Char) {cs out : List Char} (h : IsFilled values cs out) :
      IsFilled values (c :: cs) (c :: out)
  | dollar {cs out : List Char} (h : IsFilled values cs out) :
      IsFilled values ('$' :: '$' :: cs) ('$' :: out)
  | numbered {w cs out : List Char} {n : Nat} {v : String} (hw : ∀ c ∈ w, isWordChar c = true)
      (hcs : StartsOutside isWordChar cs) (hn : wordNumber? w = some n)
      (hv : (TemplatePart.value n).fill values = some v) (h : IsFilled values cs out) :
      IsFilled values ('$' :: (w ++ cs)) (v.toList ++ out)
  /-- A mark with a word that is no number stands for nothing. -/
  | dropped {w cs out : List Char} (hw : ∀ c ∈ w, isWordChar c = true)
      (hcs : StartsOutside isWordChar cs) (hn : wordNumber? w = none) (h : IsFilled values cs out) :
      IsFilled values ('$' :: (w ++ cs)) out
  | next {cs out : List Char} {v : String} (hcs : StartsOutside isWordStart cs) (hv : v ∈ values)
      (h : IsFilled values cs out) : IsFilled values ('$' :: cs) (v.toList ++ out)

section

variable {cs : List Char} {ts : List TemplateToken}

theorem exists_read_of_templateTokens {t : TemplateToken} (h : templateTokens cs = t :: ts) :
    ∃ c cs', cs = c :: cs' ∧ (TemplateToken.read c cs').1 = t ∧
      templateTokens (TemplateToken.read c cs').2 = ts := by
  cases cs with
  | nil => simp [templateTokens] at h
  | cons c cs =>
    rw [templateTokens] at h
    obtain ⟨ht, hts⟩ := List.cons.inj h
    exact ⟨c, cs, rfl, ht, hts⟩

theorem eq_of_templateTokens_sign {d : Char} (h : templateTokens cs = .sign d :: ts) :
    ∃ cs', cs = d :: cs' ∧ templateTokens cs' = ts := by
  obtain ⟨c, cs', rfl, ht, hts⟩ := exists_read_of_templateTokens h
  unfold TemplateToken.read at ht hts
  split at ht
  · cases ht
  · split at ht
    · cases ht
    · split at ht
      · cases ht
      · next hb hw _ hq =>
        cases ht
        simp only [hb, hw, hq, Bool.false_eq_true, if_false] at hts
        exact ⟨cs', rfl, hts⟩

theorem eq_of_templateTokens_word {w : List Char} (h : templateTokens cs = .word w :: ts) :
    ∃ cs', cs = w ++ cs' ∧ (∀ c ∈ w, isWordChar c = true) ∧ StartsOutside isWordChar cs' ∧
      templateTokens cs' = ts := by
  obtain ⟨c, cs', rfl, ht, hts⟩ := exists_read_of_templateTokens h
  unfold TemplateToken.read at ht hts
  split at ht
  · cases ht
  · split at ht
    · next hb hw =>
      cases ht
      simp only [hb, hw, Bool.false_eq_true, if_false, if_true] at hts
      refine ⟨cs'.dropWhile isWordChar, ?_, ?_, startsOutside_dropWhile _ _, hts⟩
      · simp [List.takeWhile_append_dropWhile]
      · refine List.forall_mem_cons.2 ⟨?_, List.all_eq_true.1 List.all_takeWhile⟩
        simp [isWordChar, hw]
    · split at ht <;> cases ht

/-- Unless a word is the first token, no word starts there. -/
theorem startsOutside_isWordStart (h : ∀ w us, templateTokens cs ≠ .word w :: us) :
    StartsOutside isWordStart cs := by
  rintro c rest rfl
  rw [← Bool.not_eq_true]
  intro hw
  have hb : ¬ isTemplateBlank c = true := by
    intro hb
    simp only [isTemplateBlank, Bool.or_eq_true, beq_iff_eq] at hb
    rcases hb with ((rfl | rfl) | rfl) | rfl <;> exact absurd hw (by decide)
  refine h (c :: rest.takeWhile isWordChar) (templateTokens (rest.dropWhile isWordChar)) ?_
  rw [templateTokens]
  simp [TemplateToken.read, hb, hw]

end

theorem TemplatePart.fillAll_cons_eq_some {values : List String} {p : TemplatePart}
    {parts : List TemplatePart} {s : String} (h : fillAll values (p :: parts) = some s) :
    ∃ v u, p.fill values = some v ∧ fillAll values parts = some u ∧ s = v ++ u := by
  rw [fillAll_cons] at h
  obtain ⟨v, hv, h⟩ := Option.bind_eq_some_iff.1 h
  obtain ⟨u, hu, rfl⟩ := Option.map_eq_some_iff.1 h
  exact ⟨v, u, hv, hu, rfl⟩

theorem TemplatePart.mem_of_fill_value {values : List String} {n : Nat} {v : String}
    (h : (value n).fill values = some v) : v ∈ values := by
  cases n with
  | zero => cases h
  | succ n => exact List.mem_of_getElem? h

namespace IsFilled

variable {values : List String}

theorem keep {cs out : List Char} (h : IsFilled values cs out) (xs : List Char) :
    IsFilled values (xs ++ cs) (xs ++ out) := by
  induction xs with
  | nil => exact h
  | cons x xs ih => exact .kept x ih

theorem of_fillAll {taken : Nat} {ts : List TemplateToken} {cs : List Char} {s : String}
    (hts : templateTokens cs = ts)
    (h : TemplatePart.fillAll values (templateParts taken ts) = some s) :
    IsFilled values cs s.toList := by
  fun_induction templateParts taken ts generalizing cs s with
  | case1 =>
    cases h
    cases cs with
    | nil => exact .nil
    | cons c cs => simp [templateTokens] at hts
  | case2 taken ts ih =>
    obtain ⟨cs₁, rfl, hts₁⟩ := eq_of_templateTokens_sign hts
    obtain ⟨cs₂, rfl, hts₂⟩ := eq_of_templateTokens_sign hts₁
    obtain ⟨v, u, hv, hu, rfl⟩ := TemplatePart.fillAll_cons_eq_some h
    cases hv
    rw [String.toList_append]
    exact .dollar (ih hts₂ hu)
  | case3 taken w ts n hn ih =>
    obtain ⟨cs₁, rfl, hts₁⟩ := eq_of_templateTokens_sign hts
    obtain ⟨cs₂, rfl, hw, hcs, hts₂⟩ := eq_of_templateTokens_word hts₁
    obtain ⟨v, u, hv, hu, rfl⟩ := TemplatePart.fillAll_cons_eq_some h
    rw [String.toList_append]
    exact .numbered hw hcs hn hv (ih hts₂ hu)
  | case4 taken w ts hn ih =>
    obtain ⟨cs₁, rfl, hts₁⟩ := eq_of_templateTokens_sign hts
    obtain ⟨cs₂, rfl, hw, hcs, hts₂⟩ := eq_of_templateTokens_word hts₁
    exact .dropped hw hcs hn (ih hts₂ h)
  | case5 taken ts _ hword ih =>
    obtain ⟨cs₁, rfl, hts₁⟩ := eq_of_templateTokens_sign hts
    obtain ⟨v, u, hv, hu, rfl⟩ := TemplatePart.fillAll_cons_eq_some h
    rw [String.toList_append]
    have hcs := startsOutside_isWordStart fun w us he => hword w us (hts₁.symm.trans he)
    exact .next hcs (TemplatePart.mem_of_fill_value hv) (ih hts₁ hu)
  | case6 taken t ts _ _ _ ih =>
    obtain ⟨c, cs', rfl, rfl, hts'⟩ := exists_read_of_templateTokens hts
    obtain ⟨v, u, hv, hu, rfl⟩ := TemplatePart.fillAll_cons_eq_some h
    cases hv
    rw [← TemplateToken.text_read_append c cs', String.toList_append, String.toList_ofList]
    exact (ih hts' hu).keep _

theorem of_fillTemplate {template s : String} (h : fillTemplate template values = some s) :
    IsFilled values template.toList s.toList := of_fillAll rfl h

/-- Text without marks is kept. -/
theorem exists_of_append {xs cs out : List Char} (hx : '$' ∉ xs)
    (h : IsFilled values (xs ++ cs) out) : ∃ out', out = xs ++ out' ∧ IsFilled values cs out' := by
  induction xs generalizing out with
  | nil => exact ⟨out, rfl, h⟩
  | cons x xs ih =>
    simp only [List.mem_cons, not_or] at hx
    generalize he : x :: xs ++ cs = source at h
    cases h with
    | nil => cases he
    | kept _ h =>
      cases he
      obtain ⟨out', rfl, h'⟩ := ih hx.2 h
      exact ⟨out', rfl, h'⟩
    | dollar | numbered | dropped | next => exact absurd (List.cons.inj he).1.symm hx.1

theorem eq_of_not_mem {xs out : List Char} (h : IsFilled values xs out) (hx : '$' ∉ xs) :
    out = xs := by
  rw [← List.append_nil xs] at h
  obtain ⟨out', rfl, h'⟩ := exists_of_append hx h
  cases h'
  exact List.append_nil xs

/-- A mark of one digit gives way to its value, or it is kept. -/
theorem exists_of_mark {m v : String} {d : Char} {n : Nat} {cs out : List Char}
    (hm : m.toList = ['$', d]) (hd : d ≠ '$' ∧ isWordStart d = true)
    (hn : wordNumber? [d] = some n) (hv : (TemplatePart.value n).fill values = some v)
    (hcs : StartsOutside isWordChar cs) (h : IsFilled values (m.toList ++ cs) out) :
    ∃ x out', (x = m ∨ x = v) ∧ out = x.toList ++ out' ∧ IsFilled values cs out' := by
  have hword : ∀ {w us}, (∀ c ∈ w, isWordChar c = true) → StartsOutside isWordChar us →
      d :: cs = w ++ us → w = [d] ∧ us = cs := by
    intro w us hw hus he
    have hdw : ∀ c ∈ [d], isWordChar c = true := by simp [isWordChar, hd.2]
    obtain ⟨ht, hr⟩ := takeWhile_append_of_startsOutside hw hus
    obtain ⟨ht', hr'⟩ := takeWhile_append_of_startsOutside hdw hcs
    rw [← he] at ht hr
    exact ⟨ht.symm.trans ht', hr.symm.trans hr'⟩
  generalize he : m.toList ++ cs = source at h
  rw [hm] at he
  cases h with
  | nil => cases he
  | kept c h =>
    cases he
    have hplain : '$' ∉ [d] := by simpa using hd.1.symm
    obtain ⟨out', rfl, h'⟩ := exists_of_append hplain h
    exact ⟨m, out', .inl rfl, by rw [hm]; rfl, h'⟩
  | dollar => exact absurd (List.cons.inj (List.cons.inj he).2).1 hd.1
  | numbered hw hus hn' hv' h =>
    obtain ⟨rfl, rfl⟩ := hword hw hus (List.cons.inj he).2
    cases hn.symm.trans hn'
    cases hv.symm.trans hv'
    exact ⟨v, _, .inr rfl, rfl, h⟩
  | dropped hw hus hn' h =>
    obtain ⟨rfl, rfl⟩ := hword hw hus (List.cons.inj he).2
    cases hn.symm.trans hn'
  | next hus =>
    cases he
    cases hd.2.symm.trans (hus d cs rfl)

/-- A word ends before a character that none goes on with. -/
theorem exists_of_word_append {w cs xs ys : List Char} (hw : ∀ c ∈ w, isWordChar c = true)
    (hy : StartsOutside isWordChar ys) (h : xs ++ ys = w ++ cs) :
    ∃ zs, xs = w ++ zs ∧ zs ++ ys = cs := by
  rcases List.append_eq_append_iff.1 h with ⟨zs, rfl, rfl⟩ | ⟨zs, rfl, rfl⟩
  · cases zs with
    | nil => exact ⟨[], by simp⟩
    | cons z zs => cases (hy z _ rfl).symm.trans (hw z (by simp))
  · exact ⟨zs, rfl, rfl⟩

/-- Marks end before such a character too. -/
theorem exists_append {xs ys out : List Char} (hy : StartsOutside isWordChar ys)
    (h : IsFilled values (xs ++ ys) out) :
    ∃ o o', out = o ++ o' ∧ IsFilled values xs o ∧ IsFilled values ys o' := by
  have hmark : ∀ {w xs cs : List Char}, (∀ c ∈ w, isWordChar c = true) →
      xs ++ ys = '$' :: (w ++ cs) → ∃ zs, xs = '$' :: (w ++ zs) ∧ zs ++ ys = cs := fun hw h =>
    exists_of_word_append (List.forall_mem_cons.2 ⟨by decide, hw⟩) hy h
  generalize hs : xs ++ ys = source at h
  induction h generalizing xs with
  | nil =>
    obtain ⟨rfl, rfl⟩ := List.append_eq_nil_iff.1 hs
    exact ⟨[], [], rfl, .nil, .nil⟩
  | kept c h ih =>
    cases xs with
    | nil =>
      cases hs
      exact ⟨[], _, rfl, .nil, .kept c h⟩
    | cons x xs =>
      cases hs
      obtain ⟨o, o', rfl, ho, ho'⟩ := ih rfl
      exact ⟨_, o', rfl, .kept _ ho, ho'⟩
  | dollar h ih =>
    obtain ⟨zs, rfl, rfl⟩ := hmark (w := ['$']) (List.forall_mem_singleton.2 (by decide)) hs
    obtain ⟨o, o', rfl, ho, ho'⟩ := ih rfl
    exact ⟨_, o', rfl, .dollar ho, ho'⟩
  | numbered hw hcs hn hv h ih =>
    obtain ⟨zs, rfl, rfl⟩ := hmark hw hs
    obtain ⟨o, o', rfl, ho, ho'⟩ := ih rfl
    exact ⟨_, o', (List.append_assoc ..).symm, .numbered hw hcs.of_append hn hv ho, ho'⟩
  | dropped hw hcs hn h ih =>
    obtain ⟨zs, rfl, rfl⟩ := hmark hw hs
    obtain ⟨o, o', rfl, ho, ho'⟩ := ih rfl
    exact ⟨_, o', rfl, .dropped hw hcs.of_append hn ho, ho'⟩
  | next hcs hv h ih =>
    obtain ⟨zs, rfl, rfl⟩ := hmark (w := []) (by simp) hs
    obtain ⟨o, o', rfl, ho, ho'⟩ := ih rfl
    exact ⟨_, o', (List.append_assoc ..).symm, .next hcs.of_append hv ho, ho'⟩

end IsFilled

namespace IsFilled

/-- Quotes stay doubled, since neither marks nor values have quotes. The induction also meets texts
that start between the two quotes of a pair. -/
theorem exists_doubledQuotes {values : List String} (hv : ∀ v ∈ values, '"' ∉ v.toList)
    {source out : List Char} (h : IsFilled values source out) :
    (∀ cs, source = doubledQuotes cs → ∃ ds, out = doubledQuotes ds) ∧
      ∀ cs, source = '"' :: doubledQuotes cs → ∃ ds, out = '"' :: doubledQuotes ds := by
  have hmark : ∀ {w v source out : List Char}, (∀ c ∈ w, isWordChar c = true) → '"' ∉ v →
      (∀ cs, source = doubledQuotes cs → ∃ ds, out = doubledQuotes ds) →
      (∀ cs, '$' :: (w ++ source) = doubledQuotes cs → ∃ ds, v ++ out = doubledQuotes ds) ∧
        ∀ cs, '$' :: (w ++ source) = '"' :: doubledQuotes cs →
          ∃ ds, v ++ out = '"' :: doubledQuotes ds := by
    intro w v source out hw hv ih
    refine ⟨fun cs hcs => ?_, fun cs hcs => nomatch (List.cons.inj hcs).1⟩
    have hquote : '"' ∉ '$' :: w := by
      refine List.not_mem_cons_of_ne_of_not_mem (by decide) fun hm => ?_
      exact absurd (hw _ hm) (by decide)
    obtain ⟨cs', rfl⟩ := append_eq_doubledQuotes (w := '$' :: w) hquote hcs
    obtain ⟨ds, rfl⟩ := ih cs' rfl
    exact ⟨v ++ ds, by rw [doubledQuotes_append, doubledQuotes_of_not_mem hv]⟩
  induction h with
  | nil => exact ⟨fun cs _ => ⟨[], rfl⟩, fun cs hcs => nomatch hcs⟩
  | kept c h ih =>
    constructor
    · intro cs hcs
      obtain ⟨cs', hcs⟩ := cons_eq_doubledQuotes hcs
      split at hcs
      · next hc =>
        obtain ⟨ds, rfl⟩ := ih.2 cs' hcs
        exact ⟨'"' :: ds, by rw [hc]; rfl⟩
      · next hc =>
        obtain ⟨ds, rfl⟩ := ih.1 cs' hcs
        exact ⟨c :: ds, (doubledQuotes_cons_of_ne hc ds).symm⟩
    · intro cs hcs
      obtain ⟨rfl, htail⟩ := List.cons.inj hcs
      obtain ⟨ds, rfl⟩ := ih.1 cs htail
      exact ⟨ds, rfl⟩
  | dollar h ih =>
    have hw : ∀ c ∈ ['$'], isWordChar c = true := List.forall_mem_singleton.2 (by decide)
    exact hmark (v := ['$']) hw (by decide) ih.1
  | numbered hw _ _ hn h ih => exact hmark hw (hv _ (TemplatePart.mem_of_fill_value hn)) ih.1
  | dropped hw _ _ h ih => exact hmark (v := []) hw (by simp) ih.1
  | next _ hm h ih => exact hmark (w := []) (by simp) (hv _ hm) ih.1

theorem exists_of_sqlName {values : List String} (hv : ∀ v ∈ values, '"' ∉ v.toList)
    {name : String} {cs out : List Char} (h : IsFilled values ((sqlName name).toList ++ cs) out) :
    ∃ other out', out = (sqlName other).toList ++ out' ∧ IsFilled values cs out' := by
  have hquote : StartsOutside isWordChar ('"' :: cs) := by
    rintro c rest ⟨⟩
    decide
  have hsource : (sqlName name).toList ++ cs =
      ['"'] ++ (doubledQuotes name.toList ++ '"' :: cs) := by
    simp [toList_sqlName]
  rw [hsource] at h
  obtain ⟨out₁, rfl, h₁⟩ := exists_of_append (by decide) h
  obtain ⟨o, out₂, rfl, ho, h₂⟩ := exists_append hquote h₁
  obtain ⟨ds, rfl⟩ := (exists_doubledQuotes hv ho).1 _ rfl
  obtain ⟨out₃, rfl, h₃⟩ := exists_of_append (by decide : '$' ∉ ['"']) h₂
  refine ⟨String.ofList ds, out₃, ?_, h₃⟩
  simp [toList_sqlName]

end IsFilled

namespace SqlTest

/-- The test of a member is one `EXISTS` with one quoted name, whatever the collection is called:
only the content of the name and the places of values depend on that. -/
theorem exists_toSql_member {collection name : String} {op : SqlOperator} {operand : SqlValue}
    (hname : '"' ∉ (sqlString name).toList) (hoperand : '"' ∉ operand.toSql.toList) {sql : String}
    (h : (member collection name op operand).toSql = some sql) :
    ∃ other x y, (x = "$1" ∨ x = sqlString name) ∧ (y = "$2" ∨ y = operand.toSql) ∧
      sql = "EXISTS (SELECT 1 FROM jsonb_array_elements(" ++ (sqlName other ++
        (memberStart operand.isInteger ++ (x ++ (memberMiddle operand.isInteger ++
          (op.symbol ++ (" " ++ (y ++ ")"))))))) := by
  rw [toSql, memberTemplate_eq] at h
  have hf := IsFilled.of_fillTemplate h
  simp only [String.toList_append] at hf
  have hv : ∀ v ∈ [sqlString name, operand.toSql], '"' ∉ v.toList := by simp [hname, hoperand]
  have hstart : '$' ∉ (memberStart operand.isInteger).toList := by
    cases operand.isInteger <;> decide
  have hmiddle : '$' ∉ (memberMiddle operand.isInteger).toList ∧
      (memberMiddle operand.isInteger).toList.head? = some ' ' := by
    cases operand.isInteger <;> decide
  have hop : '$' ∉ op.symbol.toList := by cases op <;> decide
  have hblank : ∀ cs, StartsOutside isWordChar ((memberMiddle operand.isInteger).toList ++ cs) :=
    fun cs => startsOutside_append_of_head? hmiddle.2 (by decide) cs
  have hclose : StartsOutside isWordChar ")".toList :=
    (delimited_closing []).startsOutside (by decide) (by decide)
  obtain ⟨out₁, hsql, h₁⟩ := IsFilled.exists_of_append (by decide) hf
  obtain ⟨other, out₂, rfl, h₂⟩ := IsFilled.exists_of_sqlName hv h₁
  obtain ⟨out₃, rfl, h₃⟩ := IsFilled.exists_of_append hstart h₂
  obtain ⟨x, out₄, hx, rfl, h₄⟩ := IsFilled.exists_of_mark (n := 1) rfl (by decide) (by decide) rfl
    (hblank _) h₃
  obtain ⟨out₅, rfl, h₅⟩ := IsFilled.exists_of_append hmiddle.1 h₄
  obtain ⟨out₆, rfl, h₆⟩ := IsFilled.exists_of_append hop h₅
  obtain ⟨out₇, rfl, h₇⟩ := IsFilled.exists_of_append (by decide) h₆
  obtain ⟨y, out₈, hy, rfl, h₈⟩ := IsFilled.exists_of_mark (n := 2) rfl (by decide) (by decide) rfl
    hclose h₇
  obtain rfl := h₈.eq_of_not_mem (by decide)
  refine ⟨other, x, y, hx, hy, String.toList_inj.1 ?_⟩
  rw [hsql]
  simp only [String.toList_append]

end SqlTest

end TicketQuery
