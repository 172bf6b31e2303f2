import TicketQuery.Proofs.QuerySequence

/-! # Reading that is taken up anywhere

A lexer knows nothing of what it has read but how far it has come. So after any number of tokens the
rest of the text is read like a text of its own, except that all places are counted from the start
of the whole. A parser that has answered once stands at the end and has nothing to add. -/
namespace TicketQuery

def Lexer.shift (n : ℕ) (l : Lexer) : Lexer := ⟨l.rest, l.offset + n⟩

theorem Token.shift_eof (n offset : ℕ) : (eof offset).shift n = eof (offset + n) := rfl

namespace Lexer

theorem tokens_shift (n : ℕ) (l : Lexer) : (l.shift n).tokens = l.tokens.map (Token.shift n) :=
  tokens_offset_add l.rest l.offset n

theorem stop_shift (n : ℕ) (l : Lexer) : (l.shift n).stop = l.stop + n :=
  Nat.add_right_comm ..

/-- Whichever token is asked for, only its place changes. -/
theorem next_iterate_shift (n : ℕ) (l : Lexer) (m : ℕ) :
    ((fun l => l.next.2)^[m] (l.shift n)).next.1 =
      ((fun l => l.next.2)^[m] l).next.1.shift n := by
  rw [next_iterate, next_iterate, tokens_shift, stop_shift, List.getElem?_map]
  cases l.tokens[m]? with
  | none => rw [Option.map_none, Option.getD_none, Option.getD_none, Token.shift_eof]
  | some t => rfl

/-- The second lexer has read some characters more. -/
def LeadsTo (l l' : Lexer) : Prop :=
  ∃ taken, l.rest = taken ++ l'.rest ∧ l'.offset = l.offset + utf8Length taken

theorem LeadsTo.trans {l l' l'' : Lexer} (h : l.LeadsTo l') (h' : l'.LeadsTo l'') :
    l.LeadsTo l'' := by
  obtain ⟨taken, hrest, hoffset⟩ := h
  obtain ⟨taken', hrest', hoffset'⟩ := h'
  refine ⟨taken ++ taken', ?_, ?_⟩
  · rw [hrest, hrest', List.append_assoc]
  · rw [hoffset', hoffset, utf8Length_append, Nat.add_assoc]

theorem leadsTo_skipWhiteSpace (l : Lexer) : l.LeadsTo l.skipWhiteSpace :=
  ⟨_, List.takeWhile_append_dropWhile.symm, rfl⟩

theorem leadsTo_next (l : Lexer) : l.LeadsTo l.next.2 := by
  refine l.leadsTo_skipWhiteSpace.trans ?_
  unfold next
  cases h : l.next? with
  | none => exact ⟨[], rfl, rfl⟩
  | some r =>
    obtain ⟨c, cs, hrest, rfl⟩ := next?_eq_some h
    exact ⟨_, hrest.trans (Lexeme.source_append_rest c cs).symm, rfl⟩

theorem leadsTo_iterate_next (l : Lexer) (k : ℕ) : l.LeadsTo ((fun l => l.next.2)^[k] l) := by
  induction k with
  | zero => exact ⟨[], rfl, rfl⟩
  | succ k ih =>
    rw [Function.iterate_succ_apply']
    exact ih.trans (leadsTo_next _)

end Lexer

theorem Parser.parallel_shift (n : ℕ) (l : Lexer) :
    (ofLexer l).Parallel (fun t u => u = t.shift n) (ofLexer (l.shift n)) := by
  refine ⟨⟨?_, ?_⟩, .nil⟩
  · rw [ofLexer, ofLexer, Lexer.tokens_shift]
    exact List.forall₂_map_right_iff.2 (List.forall₂_same.2 fun _ _ => rfl)
  · exact congrArg Token.eof (Lexer.stop_shift n l)

/-- Parsers for one text, counted from two places, find the same faults. -/
theorem Fault.Parallel.message_and_span {n : ℕ} {f g : Fault}
    (h : f.Parallel (fun t u => u = t.shift n) g) :
    g.message = f.message ∧ g.span = f.span.shift n := by
  obtain ⟨hcause, t, _, rfl, hf, hg⟩ := h
  constructor
  · have hsame : f.cause.Parallel Token.SameText g.cause := hcause.mono fun {t u} hu => by
      rw [hu]
      exact t.sameText_shift n
    exact hsame.message_eq.symm
  · rw [hf, hg]
    rfl

theorem Parser.parse_shift (n : ℕ) (l : Lexer) :
    (ofLexer (l.shift n)).parse.1 = (ofLexer l).parse.1 ∧
      List.Forall₂ (fun f g => g.message = f.message ∧ g.span = f.span.shift n)
        (ofLexer l).parse.2.faults (ofLexer (l.shift n)).parse.2.faults := by
  obtain ⟨hquery, hrun⟩ := (parallel_shift n l).parse fun {t u} hu => by
    rw [hu]
    exact ⟨rfl, fun _ => rfl⟩
  exact ⟨hquery.symm, hrun.faults.imp fun _ _ hfg => hfg.message_and_span⟩

theorem unread_cursor_statements (c : Cursor) : (statements c).cursor.unread = [] := by
  induction c using statements.induct with
  | case1 c hu =>
    rw [statements, dif_pos hu]
    exact hu
  | case2 c hu s ih =>
    rw [statements, dif_neg hu]
    exact ih

/-- A parser that is asked again is at the end. -/
theorem Parser.parse_parse (p : Parser) : p.parse.2.parse = ({}, p.parse.2) := by
  have hunread : p.parse.2.cursor.unread = [] := unread_cursor_statements p.cursor
  have hend : statements p.parse.2.cursor = ⟨[], [], p.parse.2.cursor⟩ := by
    rw [statements, dif_pos hunread]
  rw [parse, hend]
  simp only [List.append_nil]
  rfl

/-- After any number of tokens, the tokens that follow and what a parser makes of them are those of
the rest of the text, with all places counted from where the rest starts. Once a parser has
answered, it answers with the empty query and reports nothing new. -/
theorem exists_rest_of_iterate_next (text : String) (k : ℕ) :
    let lexer := (fun l => l.next.2)^[k] (Lexer.ofText text)
    (∃ front rest : String, text = front ++ rest ∧ front.utf8ByteSize = lexer.offset ∧
      (∀ m, ((fun l => l.next.2)^[m] lexer).next.1 =
        ((fun l => l.next.2)^[m] (Lexer.ofText rest)).next.1.shift lexer.offset) ∧
      (Parser.ofLexer lexer).parse.1 = (Parser.ofText rest).parse.1 ∧
      List.Forall₂ (fun f g => g.message = f.message ∧ g.span = f.span.shift lexer.offset)
        (Parser.ofText rest).parse.2.faults (Parser.ofLexer lexer).parse.2.faults) ∧
    ∀ p : Parser, p.parse.2.parse = ({}, p.parse.2) := by
  intro lexer
  refine ⟨?_, Parser.parse_parse⟩
  obtain ⟨front, hrest, hoffset⟩ := (Lexer.ofText text).leadsTo_iterate_next k
  have hoffset : utf8Length front = lexer.offset :=
    (Nat.zero_add _).symm.trans hoffset.symm
  have hlexer : lexer = (Lexer.ofText (String.ofList lexer.rest)).shift lexer.offset := by
    simp [Lexer.ofText, Lexer.shift]
  refine ⟨String.ofList front, String.ofList lexer.rest, ?_, ?_, fun m => ?_, ?_⟩
  · rw [← String.ofList_append, ← hrest]
    exact String.ofList_toList.symm
  · rw [utf8ByteSize_ofList, hoffset]
  · conv_lhs => rw [hlexer]
    exact Lexer.next_iterate_shift ..
  · have hparse := Parser.parse_shift lexer.offset (Lexer.ofText (String.ofList lexer.rest))
    rw [← hlexer] at hparse
    exact hparse

end TicketQuery
