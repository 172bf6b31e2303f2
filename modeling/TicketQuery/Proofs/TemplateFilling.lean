import TicketQuery.SqlCondition
import TicketQuery.Proofs.Delimiters
import TicketQuery.Proofs.SqlQuotes

/-! # Filling a template piece by piece

A template is filled from left to right. Text without marks stays as it is, and so does a quoted
name unless a backslash hides a quote of it. -/
namespace TicketQuery

theorem splitQuoted_of_ne {close c : Char} (h : c ≠ close) (cs : List Char) :
    splitQuoted close false (c :: cs) = (c :: (splitQuoted close (c = '\\') cs).1,
      (splitQuoted close (c = '\\') cs).2) := by
  cases cs <;> simp [splitQuoted, h]

theorem splitQuoted_append_right {close : Char} {escaped : Bool} {cs : List Char}
    (h : (splitQuoted close escaped cs).2 ≠ []) (rest : List Char) :
    splitQuoted close escaped (cs ++ rest) =
      ((splitQuoted close escaped cs).1, (splitQuoted close escaped cs).2 ++ rest) := by
  fun_induction splitQuoted close escaped cs with
  | case1 => exact absurd rfl h
  | case2 c cs r ih => simp [splitQuoted, ih h, r]
  | case3 => exact absurd rfl h
  | case4 d ds hd r ih => simp [splitQuoted, hd, ih h, r]
  | case5 d ds hd => simp [splitQuoted, hd]
  | case6 c cs hc r ih =>
    rw [List.cons_append, splitQuoted_of_ne hc, ih h]

namespace TemplateToken

/-- Whether a character directly behind a token becomes part of it. After quotes that depends on
what they hold. -/
def goesOn (c : Char) : TemplateToken → Bool
  | blank _ => isTemplateBlank c
  | word _ => isWordChar c
  | quoted _ => true
  | sign _ => false

def EndsBefore (rest : List Char) (t : TemplateToken) : Prop := StartsOutside t.goesOn rest

theorem read_append {c : Char} {cs rest : List Char}
    (h : (read c cs).2 ≠ [] ∨ (read c cs).1.EndsBefore rest) :
    read c (cs ++ rest) = ((read c cs).1, (read c cs).2 ++ rest) := by
  unfold read at h ⊢
  by_cases hb : isTemplateBlank c = true
  · simp only [hb, if_true] at h ⊢
    obtain ⟨ht, hd⟩ := takeWhile_append_of_dropWhile h
    rw [ht, hd]
  · by_cases hw : isWordStart c = true
    · simp only [hb, hw, if_true] at h ⊢
      obtain ⟨ht, hd⟩ := takeWhile_append_of_dropWhile h
      rw [ht, hd]
      rfl
    · simp only [hb, hw] at h ⊢
      cases hq : closingQuote? c with
      | none => rfl
      | some close =>
        simp only [hq] at h ⊢
        cases rest with
        | nil => simp
        | cons d rest =>
          have hn := h.resolve_right fun he => Bool.noConfusion (he d rest rfl)
          have hs := splitQuoted_append_right hn (d :: rest)
          simp [hs]

end TemplateToken

theorem templateTokens_append {cs rest : List Char}
    (h : ∀ t, (templateTokens cs).getLast? = some t → t.EndsBefore rest) :
    templateTokens (cs ++ rest) = templateTokens cs ++ templateTokens rest := by
  fun_induction templateTokens cs with
  | case1 => rfl
  | case2 c cs r ih =>
    have hr : r.2 ≠ [] ∨ r.1.EndsBefore rest := by
      by_cases hn : r.2 = []
      · right
        apply h
        simp [hn, templateTokens]
      · exact .inl hn
    have hlast : ∀ t, (templateTokens r.2).getLast? = some t → t.EndsBefore rest := by
      intro t ht
      apply h
      rw [List.getLast?_cons, ht]
      rfl
    have hread : TemplateToken.read c (cs ++ rest) = (r.1, r.2 ++ rest) :=
      TemplateToken.read_append hr
    rw [List.cons_append, templateTokens, hread, List.cons_append, ← ih hlast]

theorem templateParts_append {ts : List TemplateToken} (h : .sign '$' ∉ ts) (taken : Nat)
    (us : List TemplateToken) :
    templateParts taken (ts ++ us) = ts.map (fun t => .text t.text) ++ templateParts taken us := by
  induction ts with
  | nil => rfl
  | cons t ts ih =>
    have ht : t ≠ .sign '$' := fun he => h (he ▸ List.mem_cons_self)
    have hts : .sign '$' ∉ ts := fun hm => h (List.mem_cons_of_mem t hm)
    rw [List.cons_append, templateParts, ih hts]
    · rfl
    all_goals simp_all

/-- The text of parts in order. -/
def TemplatePart.fillAll (values : List String) (parts : List TemplatePart) : Option String :=
  (parts.mapM (fill values)).map String.join

theorem TemplatePart.fillAll_cons (values : List String) (p : TemplatePart)
    (parts : List TemplatePart) :
    fillAll values (p :: parts) =
      (p.fill values).bind fun s => (fillAll values parts).map (s ++ ·) := by
  cases hp : p.fill values <;> cases hps : parts.mapM (fill values) <;>
    simp [fillAll, List.mapM_cons, hp, hps]

theorem TemplatePart.fillAll_append_text (values : List String) (ts : List TemplateToken)
    (parts : List TemplatePart) :
    fillAll values (ts.map (fun t => .text t.text) ++ parts) =
      (fillAll values parts).map (String.ofList (ts.flatMap TemplateToken.text) ++ ·) := by
  induction ts with
  | nil => simp
  | cons t ts ih =>
    rw [List.map_cons, List.cons_append, fillAll_cons, ih, fill, Option.bind_some, Option.map_map,
      List.flatMap_cons, String.ofList_append]
    congr 1
    funext s
    exact (String.append_assoc ..).symm

variable {s t u v : String} {values : List String}

theorem fillTemplate_eq (template : String) (values : List String) : fillTemplate template values =
    TemplatePart.fillAll values (templateParts 0 (templateTokens template.toList)) := rfl

/-- A text without marks behind which the character starts a new token. -/
def IsPlainBefore (c : Char) (s : String) : Prop :=
  .sign '$' ∉ templateTokens s.toList ∧
    (templateTokens s.toList).getLast?.any (fun t => !t.goesOn c) = true

instance (c : Char) (s : String) : Decidable (IsPlainBefore c s) :=
  inferInstanceAs (Decidable (_ ∧ _))

theorem isPlainBefore_of_blank {c : Char} {w : List Char}
    (hs : .sign '$' ∉ templateTokens s.toList)
    (hl : (templateTokens s.toList).getLast? = some (.blank w)) (hc : isTemplateBlank c = false) :
    IsPlainBefore c s :=
  ⟨hs, by simp [hl, TemplateToken.goesOn, hc]⟩

theorem IsPlainBefore.templateTokens_append {c : Char} {cs : List Char} (hs : IsPlainBefore c s)
    (hc : cs.head? = some c) :
    templateTokens (s.toList ++ cs) = templateTokens s.toList ++ templateTokens cs := by
  apply TicketQuery.templateTokens_append
  rintro last hl d rest rfl
  have hg := hs.2
  cases hc
  simpa [hl] using hg

theorem fillTemplate_append {c : Char} (hs : IsPlainBefore c s) (hc : t.toList.head? = some c)
    (ht : fillTemplate t values = some u) : fillTemplate (s ++ t) values = some (s ++ u) := by
  rw [fillTemplate_eq] at ht
  rw [fillTemplate_eq, String.toList_append, hs.templateTokens_append hc, templateParts_append hs.1,
    TemplatePart.fillAll_append_text, text_templateTokens, String.ofList_toList, ht]
  rfl

/-- The place of a value that is marked by a digit. -/
theorem fillTemplate_mark {m : String} {d c : Char} {n : Nat} (hm : m.toList = ['$', d])
    (hd : isTemplateBlank d = false ∧ isWordStart d = true) (hn : wordNumber? [d] = some n)
    (hv : (TemplatePart.value n).fill values = some v) (hc : t.toList.head? = some c)
    (hw : isWordChar c = false) (hu : fillTemplate t values = some u) :
    fillTemplate (m ++ t) values = some (v ++ u) := by
  have hsign : TemplateToken.read '$' (d :: t.toList) = (.sign '$', d :: t.toList) := rfl
  have hword : TemplateToken.read d t.toList = (.word [d], t.toList) := by
    cases ht : t.toList with
    | nil => simp [TemplateToken.read, hd]
    | cons c' cs =>
      rw [ht] at hc
      cases hc
      simp [TemplateToken.read, hd, hw]
  have hts : templateTokens (m ++ t).toList =
      .sign '$' :: .word [d] :: templateTokens t.toList := by
    rw [String.toList_append, hm, List.cons_append, List.singleton_append, templateTokens, hsign,
      templateTokens, hword]
  rw [fillTemplate_eq] at hu
  rw [fillTemplate_eq, hts, templateParts, hn, TemplatePart.fillAll_cons, hv, hu]
  rfl

/-- Whether no backslash hides a quote of a name in quotes: a backslash that is not hidden itself
stands before a character other than a quote. -/
def hidesNoQuote : (escaped : Bool) → List Char → Bool
  | escaped, [] => !escaped
  | true, c :: cs => c ≠ '"' && hidesNoQuote false cs
  | false, c :: cs => hidesNoQuote (c = '\\') cs

/-- A template reads the name in quotes as one token. -/
def KeepsQuotes (name : String) : Prop := hidesNoQuote false name.toList = true

instance (name : String) : Decidable (KeepsQuotes name) := inferInstanceAs (Decidable (_ = _))

theorem keepsQuotes_of_not_mem {name : String} (h : '\\' ∉ name.toList) : KeepsQuotes name := by
  unfold KeepsQuotes
  generalize name.toList = cs at h ⊢
  induction cs with
  | nil => rfl
  | cons c cs ih =>
    simp only [List.mem_cons, not_or] at h
    have hc : c ≠ '\\' := fun he => h.1 he.symm
    rw [hidesNoQuote, decide_eq_false hc]
    exact ih h.2

example : KeepsQuotes "a\\b\\\\\"" := by decide +kernel
example : ¬ KeepsQuotes "a\\\\\\" := by decide +kernel

/-- Quotes written twice are within the quotes. -/
theorem splitQuoted_doubledQuotes {cs rest : List Char} {escaped : Bool}
    (h : hidesNoQuote escaped cs = true) (hr : StartsOutside (· == '"') rest) :
    splitQuoted '"' escaped (doubledQuotes cs ++ '"' :: rest) =
      (doubledQuotes cs ++ ['"'], rest) := by
  induction cs generalizing escaped with
  | nil =>
    obtain rfl : escaped = false := by simpa [hidesNoQuote] using h
    cases rest with
    | nil => rfl
    | cons c rest =>
      have hc : c ≠ '"' := ne_of_beq_false (hr c rest rfl)
      simp [doubledQuotes, splitQuoted, hc]
  | cons c cs ih =>
    by_cases hq : c = '"'
    · cases escaped with
      | true => simp [hidesNoQuote, hq] at h
      | false =>
        have hcs := @ih false (by simpa [hidesNoQuote, hq] using h)
        have hd : doubledQuotes (c :: cs) = '"' :: '"' :: doubledQuotes cs := by
          rw [hq]
          rfl
        simp [hd, splitQuoted, hcs]
    · rw [doubledQuotes_cons_of_ne hq, List.cons_append]
      cases escaped with
      | true =>
        have hcs := @ih false (by simpa [hidesNoQuote, hq] using h)
        simp [splitQuoted, hcs]
      | false =>
        rw [splitQuoted_of_ne hq, ih h]
        rfl

theorem fillTemplate_sqlName {name : String} {c : Char} (h : KeepsQuotes name)
    (hc : t.toList.head? = some c) (hq : c ≠ '"') (hu : fillTemplate t values = some u) :
    fillTemplate (sqlName name ++ t) values = some (sqlName name ++ u) := by
  have ht : StartsOutside (· == '"') t.toList := by
    intro d rest hd
    rw [hd] at hc
    cases hc
    exact beq_false_of_ne hq
  have hread : TemplateToken.read '"' (doubledQuotes name.toList ++ '"' :: t.toList) =
      (.quoted (sqlName name).toList, t.toList) := by
    have hq : TemplateToken.read '"' (doubledQuotes name.toList ++ '"' :: t.toList) =
        (.quoted ('"' :: (splitQuoted '"' false
          (doubledQuotes name.toList ++ '"' :: t.toList)).1), _) := rfl
    rw [hq, splitQuoted_doubledQuotes h ht, toList_sqlName]
  have hts : templateTokens (sqlName name ++ t).toList =
      [.quoted (sqlName name).toList] ++ templateTokens t.toList := by
    rw [String.toList_append, toList_sqlName, List.cons_append, List.append_assoc,
      List.singleton_append, templateTokens, hread, toList_sqlName]
    rfl
  rw [fillTemplate_eq] at hu
  rw [fillTemplate_eq, hts, templateParts_append (by simp), TemplatePart.fillAll_append_text, hu]
  simp [TemplateToken.text]

end TicketQuery
