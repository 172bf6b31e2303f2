import Mathlib.Data.List.Forall2
import TicketQuery.Proofs.JsonScalarText

/-! # Values in JSON text

A value that has been written, with or without blanks, is read as the tokens that it consists of. -/
namespace TicketQuery

open JsonNumber (isNumberChar)

/-- Wherever the characters stand, they are tokens of these kinds, unless what follows them goes on
with a number at their end. -/
def IsLexed (cs : List Char) (ks : List JsonTokenKind) : Prop :=
  ∀ index rest, StartsOutside isNumberChar rest →
    ∃ ts stop, ts.map JsonToken.kind = ks ∧
      jsonTokens index (cs ++ rest) = ts ++ jsonTokens stop rest

theorem jsonTokens_cons_of_next {index : Nat} {c : Char} {cs rest : List Char}
    {k : JsonTokenKind} (hc : isJsonBlank c = false)
    (h : (JsonLexeme.read index c cs).token.kind = k ∧
      ∃ p, (JsonLexeme.read index c cs).next = some p ∧ p.1.rest = rest) :
    ∃ t stop, t.kind = k ∧ jsonTokens index (c :: cs) = t :: jsonTokens stop rest := by
  obtain ⟨hk, p, hp, rfl⟩ := h
  refine ⟨_, p.1.index, hk, ?_⟩
  rw [jsonTokens, hc]
  simp [hp]

theorem isJsonBlank_of_number {c : Char} (h : c = '-' ∨ c.isDigit = true) :
    isJsonBlank c = false := by
  rw [← Bool.not_eq_true]
  intro hb
  simp only [isJsonBlank, Bool.or_eq_true, beq_iff_eq] at hb
  rcases hb with ((rfl | rfl) | rfl) | rfl <;> exact absurd h (by decide)

namespace IsLexed

variable {cs ds : List Char} {ks ls : List JsonTokenKind}

theorem nil : IsLexed [] [] := fun index _ _ => ⟨[], index, rfl, rfl⟩

theorem append (hc : IsLexed cs ks) (hd : IsLexed ds ls) (hs : StartsOutside isNumberChar ds) :
    IsLexed (cs ++ ds) (ks ++ ls) := by
  intro index rest hrest
  obtain ⟨ts, stop, rfl, hts⟩ := hc index (ds ++ rest) (hs.append hrest)
  obtain ⟨us, stop', rfl, hus⟩ := hd stop rest hrest
  refine ⟨ts ++ us, stop', List.map_append, ?_⟩
  rw [List.append_assoc, hts, hus, List.append_assoc]

theorem blank {c : Char} (hc : isJsonBlank c = true) (h : IsLexed cs ks) :
    IsLexed (c :: cs) ks := by
  intro index rest hrest
  obtain ⟨ts, stop, hk, hts⟩ := h (index + 1) rest hrest
  refine ⟨ts, stop, hk, ?_⟩
  rw [List.cons_append, jsonTokens, if_pos hc, hts]

theorem prependBlanks (hb : ∀ c ∈ ds, isJsonBlank c = true) (h : IsLexed cs ks) :
    IsLexed (ds ++ cs) ks := by
  induction ds with
  | nil => exact h
  | cons d ds ih =>
    obtain ⟨hd, hds⟩ := List.forall_mem_cons.1 hb
    exact (ih hds).blank hd

theorem appendBlanks (h : IsLexed cs ks) (hb : ∀ c ∈ ds, isJsonBlank c = true) :
    IsLexed (cs ++ ds) ks := by
  have hds : IsLexed (ds ++ []) [] := nil.prependBlanks hb
  rw [List.append_nil] at hds
  rw [← List.append_nil ks]
  refine h.append hds ?_
  rintro d rest rfl
  have hd := hb d List.mem_cons_self
  simp only [isJsonBlank, Bool.or_eq_true, beq_iff_eq] at hd
  rcases hd with ((rfl | rfl) | rfl) | rfl <;> decide

theorem punctuation {c : Char} {k : JsonTokenKind} (hc : isJsonBlank c = false)
    (hk : ∀ index cs, JsonLexeme.read index c cs = .punctuation k index cs)
    (h : IsLexed cs ks) : IsLexed (c :: cs) (k :: ks) := by
  intro index rest hrest
  have hread : (JsonLexeme.read index c (cs ++ rest)).token.kind = k ∧
      ∃ p, (JsonLexeme.read index c (cs ++ rest)).next = some p ∧ p.1.rest = cs ++ rest := by
    rw [hk]
    exact ⟨rfl, _, rfl, rfl⟩
  obtain ⟨t, stop, rfl, ht⟩ := jsonTokens_cons_of_next hc hread
  obtain ⟨ts, stop', rfl, hts⟩ := h stop rest hrest
  exact ⟨t :: ts, stop', rfl, by rw [List.cons_append, ht, hts]; rfl⟩

theorem comma (h : IsLexed cs ks) : IsLexed (',' :: cs) (.comma :: ks) :=
  h.punctuation (by decide) fun _ _ => rfl

theorem colon (h : IsLexed cs ks) : IsLexed (':' :: cs) (.colon :: ks) :=
  h.punctuation (by decide) fun _ _ => rfl

/-- A list or an object, from what stands between its brackets. -/
theorem inList (h : IsLexed cs ks) :
    IsLexed ('[' :: (cs ++ [']'])) (.beginList :: (ks ++ [.endList])) := by
  have hclose : IsLexed [']'] [.endList] := nil.punctuation (by decide) fun _ _ => rfl
  refine (h.append hclose ?_).punctuation (by decide) fun _ _ => rfl
  exact startsOutside_cons (by decide) []

theorem inObject (h : IsLexed cs ks) :
    IsLexed ('\x7b' :: (cs ++ ['\x7d'])) (.beginObject :: (ks ++ [.endObject])) := by
  have hclose : IsLexed ['\x7d'] [.endObject] := nil.punctuation (by decide) fun _ _ => rfl
  refine (h.append hclose ?_).punctuation (by decide) fun _ _ => rfl
  exact startsOutside_cons (by decide) []

theorem separated {css : List (List Char)} {kss : List (List JsonTokenKind)}
    (h : List.Forall₂ IsLexed css kss) :
    IsLexed ([','].intercalate css) ([.comma].intercalate kss) := by
  induction h with
  | nil => exact nil
  | @cons cs ks css kss hc h ih =>
    cases h with
    | nil => simpa using hc
    | cons =>
      rw [List.intercalate_cons_cons, List.intercalate_cons_cons, List.append_assoc,
        List.append_assoc]
      exact hc.append ih.comma (startsOutside_cons (by decide) _)

theorem text (s : String) :
    IsLexed (JsonValue.textLiteral s).toList [.text ⟨.ok (.text s), .ok ()⟩] := by
  intro index rest _
  obtain ⟨stop, hdecode, hskip⟩ := JsonText.decode_escaped s.toList rest (index + 1)
  have hs : (JsonValue.textLiteral s).toList ++ rest =
      '"' :: (s.toList.flatMap JsonValue.escapedChar ++ '"' :: rest) := by
    simp [JsonValue.textLiteral]
  obtain ⟨t, stop', ht, hts⟩ := jsonTokens_cons_of_next (c := '"') (by decide)
    (JsonLexeme.text_of_decode hdecode hskip)
  exact ⟨[t], stop', by rw [List.map_singleton, ht], by rw [hs, hts]; rfl⟩

theorem integer {n : Int} (hn : JsonValue.Is64Bit n) :
    IsLexed (toString n).toList [.bare ⟨.ok (.integer n), .ok ()⟩] := by
  intro index rest hrest
  obtain ⟨m, hread, hm⟩ := JsonValue.exists_read_toString hn index hrest
  obtain ⟨c, cs, hs, hc⟩ := exists_toString_eq_cons n
  have hblank : isJsonBlank c = false := isJsonBlank_of_number hc
  rw [hs, List.cons_append] at hread
  have hnext := JsonLexeme.number_of_read hread hm
  rw [← JsonLexeme.read_of_isDigit hc] at hnext
  obtain ⟨t, stop, ht, hts⟩ := jsonTokens_cons_of_next hblank hnext
  exact ⟨[t], stop, by rw [List.map_singleton, ht], by rw [hs, List.cons_append, hts]; rfl⟩

theorem word {c : Char} {v : JsonScalar} {letters : List Char} (hc : isJsonBlank c = false)
    (h : ∀ index cs, JsonLexeme.read index c cs = .word v letters index cs) :
    IsLexed (c :: letters) [.bare ⟨.ok v, .ok ()⟩] := by
  intro index rest _
  have hnext := JsonLexeme.word_append v letters rest index
  rw [← h] at hnext
  obtain ⟨t, stop, ht, hts⟩ := jsonTokens_cons_of_next hc hnext
  exact ⟨[t], stop, by rw [List.map_singleton, ht], hts⟩

theorem boolean (b : Bool) :
    IsLexed (if b then "true" else "false").toList [.bare ⟨.ok (.boolean b), .ok ()⟩] := by
  cases b with
  | true => exact word (c := 't') (by decide) fun _ _ => rfl
  | false => exact word (c := 'f') (by decide) fun _ _ => rfl

theorem member (key : String) (h : IsLexed cs ks) :
    IsLexed ((JsonValue.textLiteral key).toList ++ ':' :: cs)
      (.text ⟨.ok (.text key), .ok ()⟩ :: .colon :: ks) :=
  (text key).append h.colon (startsOutside_cons (by decide) cs)

end IsLexed

namespace JsonValue

mutual

/-- The kinds of the tokens that a value consists of. -/
def kinds : JsonValue → List JsonTokenKind
  | integer n => [.bare ⟨.ok (.integer n), .ok ()⟩]
  | boolean b => [.bare ⟨.ok (.boolean b), .ok ()⟩]
  | text s => [.text ⟨.ok (.text s), .ok ()⟩]
  | list items => .beginList :: ([.comma].intercalate (itemKinds items) ++ [.endList])
  | object members => .beginObject :: ([.comma].intercalate (memberKinds members) ++ [.endObject])

def itemKinds : List JsonValue → List (List JsonTokenKind)
  | [] => []
  | v :: vs => v.kinds :: itemKinds vs

def memberKinds : List (String × JsonValue) → List (List JsonTokenKind)
  | [] => []
  | (key, v) :: ms => (.text ⟨.ok (.text key), .ok ()⟩ :: .colon :: v.kinds) :: memberKinds ms

end

mutual

/-- Every integer in the value is one of 64 bits. -/
def Fits : JsonValue → Prop
  | integer n => Is64Bit n
  | list items => ItemsFit items
  | object members => MembersFit members
  | _ => True

def ItemsFit : List JsonValue → Prop
  | [] => True
  | v :: vs => v.Fits ∧ ItemsFit vs

def MembersFit : List (String × JsonValue) → Prop
  | [] => True
  | (_, v) :: ms => v.Fits ∧ MembersFit ms

end

theorem membersFit_iff {ms : List (String × JsonValue)} :
    MembersFit ms ↔ ∀ m ∈ ms, m.2.Fits := by
  induction ms with
  | nil => simp [MembersFit]
  | cons m ms ih => rw [MembersFit, ih, List.forall_mem_cons]

theorem MembersFit.of_perm {ms ns : List (String × JsonValue)} (h : ms.Perm ns)
    (hn : MembersFit ns) : MembersFit ms :=
  membersFit_iff.2 fun m hm => membersFit_iff.1 hn m (h.mem_iff.1 hm)

mutual

theorem isLexed_compact : (v : JsonValue) → v.Fits → IsLexed v.compact.toList v.kinds
  | integer n, h => .integer h
  | boolean b, _ => .boolean b
  | text s, _ => .text s
  | list items, h => by
    have := (IsLexed.separated (forall₂_compactItems items h)).inList
    simpa [compact, kinds] using this
  | object members, h => by
    have := (IsLexed.separated (forall₂_compactMembers members h)).inObject
    simpa [compact, kinds] using this

theorem forall₂_compactItems : (vs : List JsonValue) → ItemsFit vs →
    List.Forall₂ IsLexed ((compactItems vs).map String.toList) (itemKinds vs)
  | [], _ => .nil
  | v :: vs, h => .cons (isLexed_compact v h.1) (forall₂_compactItems vs h.2)

theorem forall₂_compactMembers : (ms : List (String × JsonValue)) → MembersFit ms →
    List.Forall₂ IsLexed ((compactMembers ms).map String.toList) (memberKinds ms)
  | [], _ => .nil
  | (key, v) :: ms, h => by
    refine .cons ?_ (forall₂_compactMembers ms h.2)
    simpa using (isLexed_compact v h.1).member key

end

theorem forall_isJsonBlank_newLine (depth : Nat) :
    ∀ c ∈ (newLine depth).toList, isJsonBlank c = true := by
  intro c hc
  simp only [newLine, String.toList_append, String.toList_ofList, List.mem_append,
    List.mem_replicate] at hc
  rcases hc with hc | ⟨-, rfl⟩
  · obtain rfl : c = '\n' := by simpa using hc
    rfl
  · rfl

mutual

theorem isLexed_indented : (v : JsonValue) → v.Fits → (depth : Nat) →
    IsLexed (v.indented depth).toList v.kinds
  | integer n, h, _ => .integer h
  | boolean b, _, _ => .boolean b
  | text s, _, _ => .text s
  | list [], _, _ => by
    simpa [indented, scalarText, kinds, itemKinds] using IsLexed.nil.inList
  | object [], _, _ => by
    simpa [indented, scalarText, kinds, memberKinds] using IsLexed.nil.inObject
  | list (v :: vs), h, depth => by
    have := ((IsLexed.separated (forall₂_indentedItems (v :: vs) h (depth + 1))).appendBlanks
      (forall_isJsonBlank_newLine depth)).inList
    simpa [indented, kinds] using this
  | object (m :: ms), h, depth => by
    have := ((IsLexed.separated (forall₂_indentedMembers (m :: ms) h (depth + 1))).appendBlanks
      (forall_isJsonBlank_newLine depth)).inObject
    simpa [indented, kinds] using this

theorem forall₂_indentedItems : (vs : List JsonValue) → ItemsFit vs → (depth : Nat) →
    List.Forall₂ IsLexed ((indentedItems depth vs).map String.toList) (itemKinds vs)
  | [], _, _ => .nil
  | v :: vs, h, depth => by
    refine .cons ?_ (forall₂_indentedItems vs h.2 depth)
    simpa using (isLexed_indented v h.1 depth).prependBlanks (forall_isJsonBlank_newLine depth)

theorem forall₂_indentedMembers : (ms : List (String × JsonValue)) → MembersFit ms →
    (depth : Nat) →
    List.Forall₂ IsLexed ((indentedMembers depth ms).map String.toList) (memberKinds ms)
  | [], _, _ => .nil
  | (key, v) :: ms, h, depth => by
    refine .cons ?_ (forall₂_indentedMembers ms h.2 depth)
    have hblank : isJsonBlank ' ' = true := rfl
    have := (((isLexed_indented v h.1 depth).blank hblank).member key).prependBlanks
      (forall_isJsonBlank_newLine depth)
    simpa using this

end

end JsonValue

end TicketQuery
