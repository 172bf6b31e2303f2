import TicketQuery.Proofs.JsonReadValues
import TicketQuery.Proofs.TreeReading

/-! # Values that are passed over

Whatever the grammar allows is passed over, with its brackets kept on a stack: texts without a
meaning, numbers that are too large and keys that are given again. A part of a value leads from one
state to another, so what holds for the parts is put together along the tree. -/
namespace TicketQuery.JsonReader

theorem gives_skipFrom_cons {stop : ℕ} {s s' : SkipState} {b b' : List JsonBracket} {t : JsonToken}
    {ts us : List JsonToken} (hs : ¬ (s = .after ∧ b = [])) (hstep : s.step b t = .ok (s', b'))
    (h : Gives (skipFrom stop s' b') ts () us) : Gives (skipFrom stop s b) (t :: ts) () us := by
  obtain ⟨r, hr, -, rfl⟩ := h
  have hcons : skipFrom stop s b (t :: ts) =
      .ok ⟨(), r.rest, Nat.le_succ_of_le r.length_rest_le⟩ := by
    rw [skipFrom_cons, if_neg hs]
    simp only [hstep, hr]
  exact ⟨_, hcons, rfl, rfl⟩

/-- Tokens of these marks lead from one state to another, whatever follows them. -/
def Passes (stop : ℕ) (s : SkipState) (b : List JsonBracket) (ks : List JsonMark) (s' : SkipState)
    (b' : List JsonBracket) : Prop :=
  ∀ ts us vs, Shows ks ts → Gives (skipFrom stop s' b') us () vs →
    Gives (skipFrom stop s b) (ts ++ us) () vs

/-- What comes behind a comma. -/
def elementState : JsonBracket → SkipState
  | .list => .value
  | .object => .key

def closingMark : JsonBracket → JsonMark
  | .list => .endList
  | .object => .endObject

/-- What a bracket of this kind holds may come next, the first of it or more. -/
def Expects (k : JsonBracket) (s : SkipState) (b : List JsonBracket) : Prop :=
  s = elementState k ∨ s = .opened ∧ ∃ outer, b = k :: outer

theorem Expects.not_finished {k : JsonBracket} {s : SkipState} {b : List JsonBracket}
    (h : Expects k s b) : ¬ (s = .after ∧ b = []) := by
  rintro ⟨rfl, -⟩
  rcases h with h | ⟨h, -⟩
  · cases k <;> cases h
  · cases h

namespace Passes

variable {stop : ℕ} {s s' s'' : SkipState} {b b' b'' : List JsonBracket} {ks ls : List JsonMark}

theorem nil : Passes stop s b [] s b := by
  intro ts us vs hts hus
  cases hts
  exact hus

theorem cons {k : JsonMark} (hs : ¬ (s = .after ∧ b = []))
    (hk : ∀ t : JsonToken, k.IsReadAs t.kind → s.step b t = .ok (s', b'))
    (h : Passes stop s' b' ks s'' b'') : Passes stop s b (k :: ks) s'' b'' := by
  intro ts us vs hts hus
  obtain ⟨t, ts, rfl, ht, hts⟩ := hts.exists_cons
  exact gives_skipFrom_cons hs (hk t ht) (h ts us vs hts hus)

theorem trans (h : Passes stop s b ks s' b') (h' : Passes stop s' b' ls s'' b'') :
    Passes stop s b (ks ++ ls) s'' b'' := by
  intro ts us vs hts hus
  obtain ⟨ts₁, ts₂, rfl, h₁, h₂⟩ := hts.exists_append
  rw [List.append_assoc]
  exact h ts₁ _ vs h₁ (h' ts₂ us vs h₂ hus)

/-- A token with which a value starts. -/
theorem cons_value {k : JsonMark} (h : Expects .list s b)
    (hk : ∀ t : JsonToken, k.IsReadAs t.kind →
      t.kind ≠ .endList ∧ SkipState.takeValue b t = .ok (s', b'))
    (h' : Passes stop s' b' ks s'' b'') : Passes stop s b (k :: ks) s'' b'' := by
  refine cons h.not_finished (fun t ht => ?_) h'
  obtain ⟨hne, htake⟩ := hk t ht
  rcases h with rfl | ⟨rfl, outer, rfl⟩
  · exact htake
  · rw [← htake, SkipState.step.eq_def]
    split <;> simp_all

/-- A key with its colon. -/
theorem cons_key (t : TextLiteral) (h : Expects .object s b)
    (h' : Passes stop .value b ks s'' b'') :
    Passes stop s b (.leaf (.text t) :: .colon :: ks) s'' b'' := by
  have hcolon : Passes stop .colon b (.colon :: ks) s'' b'' := by
    refine cons (by simp) (fun c hc => ?_) h'
    have hc : c.kind = .colon := hc
    simp [SkipState.step, hc]
  refine cons h.not_finished (fun c hc => ?_) hcolon
  obtain ⟨r, hc, hskipped, -⟩ := hc
  have hc : c.kind = .text r := hc
  rcases h with rfl | ⟨rfl, outer, rfl⟩ <;>
    simp [elementState, SkipState.step, SkipState.takeKey, hc, hskipped, Except.map]

theorem cons_comma {k : JsonBracket} {outer : List JsonBracket}
    (h : Passes stop (elementState k) (k :: outer) ks s'' b'') :
    Passes stop .after (k :: outer) (.comma :: ks) s'' b'' := by
  refine cons (by simp) (fun t ht => ?_) h
  have ht : t.kind = .comma := ht
  cases k <;> simp [elementState, SkipState.step, ht]

theorem close (k : JsonBracket) (first : Bool) (outer : List JsonBracket) :
    Passes stop (if first then .opened else .after) (k :: outer) [closingMark k] .after outer := by
  refine cons (by simp) (fun t ht => ?_) nil
  cases k with
  | list =>
    have ht : t.kind = .endList := ht
    cases first <;> simp [SkipState.step, ht]
  | object =>
    have ht : t.kind = .endObject := ht
    cases first <;> simp [SkipState.step, ht]

mutual

theorem value : (x : JsonTree) → ∀ {s : SkipState} {b : List JsonBracket}, Expects .list s b →
    Passes stop s b x.marks .after b
  | .leaf l, s, b, h => by
    refine cons_value h (fun t ht => ?_) nil
    obtain ⟨r, hk, hskipped, -⟩ := ht
    rw [hk]
    cases l <;> simp [JsonLeaf.kind, SkipState.takeValue, hk, hskipped, Except.map]
  | .list xs, s, b, h => by
    refine cons_value h (fun t ht => ?_) (items xs true b)
    have ht : t.kind = .beginList := ht
    simp [SkipState.takeValue, ht]
  | .object ms, s, b, h => by
    refine cons_value h (fun t ht => ?_) (members ms true b)
    have ht : t.kind = .beginObject := ht
    simp [SkipState.takeValue, ht]

theorem items : (xs : List JsonTree) → ∀ first outer,
    Passes stop (if first then .opened else .after) (.list :: outer)
      (JsonTree.itemMarks first xs ++ [.endList]) .after outer
  | [], first, outer => close .list first outer
  | x :: xs, true, outer => by
    rw [JsonTree.itemMarks_cons_append]
    exact (value x (.inr ⟨rfl, outer, rfl⟩)).trans (items xs false outer)
  | x :: xs, false, outer => by
    rw [JsonTree.itemMarks_cons_append]
    exact cons_comma ((value x (.inl rfl)).trans (items xs false outer))

theorem members : (ms : List (TextLiteral × JsonTree)) → ∀ first outer,
    Passes stop (if first then .opened else .after) (.object :: outer)
      (JsonTree.memberMarks first ms ++ [.endObject]) .after outer
  | [], first, outer => close .object first outer
  | (t, x) :: ms, true, outer => by
    rw [JsonTree.memberMarks_cons_append]
    exact cons_key t (.inr ⟨rfl, outer, rfl⟩) ((value x (.inl rfl)).trans (members ms false outer))
  | (t, x) :: ms, false, outer => by
    rw [JsonTree.memberMarks_cons_append]
    exact cons_comma
      (cons_key t (.inl rfl) ((value x (.inl rfl)).trans (members ms false outer)))

end

end Passes

/-- Whatever the value is, it is passed over. -/
theorem understands_skip (stop : ℕ) (x : JsonTree) : Understands (skip stop) x fun _ => True := by
  intro ts us hts a vs
  have hend : Gives (skipFrom stop .after []) us () us := by
    have h : skipFrom stop .after [] us = .ok ⟨(), us, Nat.le_refl _⟩ := by
      cases us <;> rfl
    exact ⟨_, h, rfl, rfl⟩
  have hskip : Gives (skip stop) (ts ++ us) () us :=
    Passes.value x (.inl rfl) ts us us hts hend
  constructor
  · intro h
    exact ⟨trivial, (h.unique hskip).2⟩
  · rintro ⟨-, rfl⟩
    exact hskip

end TicketQuery.JsonReader
