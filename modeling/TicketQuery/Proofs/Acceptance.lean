import TicketQuery.Proofs.ParserSoundness

/-! # Which queries the parser accepts

A text is parsed without a fault if and only if its tokens have a derivation in the grammar. There
is only one then, and the parser gives its query. -/
namespace TicketQuery

theorem Derives.eq {items items' : List Item} {ts : List Token} (h : Derives items ts)
    (h' : Derives items' ts) : items = items' :=
  h.valid.eq_of_tokens_eq h'.valid (h.tokens_eq.trans h'.tokens_eq.symm)

/-- A derivation is all that the parser reads. -/
theorem Derives.parse_eq {items : List Item} {p : Parser} (h : Derives items p.cursor.unread) :
    p.parse.1 = Query.ofItems items ∧ p.parse.2.faults = p.faults := by
  obtain ⟨hr, hf⟩ := read_items h.valid h.tokens_eq.symm
  constructor
  · simp only [Parser.parse, hr]
    exact Query.ofStatements_map_ofValue _
  · simp only [Parser.parse, hf, List.append_nil]

theorem parse_faultless_iff_derives (text : String) :
    ((Parser.ofText text).parse.2.faults = [] ↔
        ∃! items, Derives items (Lexer.ofText text).tokens) ∧
      ∀ items, Derives items (Lexer.ofText text).tokens →
        (Parser.ofText text).parse.1 = Query.ofItems items := by
  constructor
  · constructor
    · intro hf
      obtain ⟨items, h⟩ := exists_derives (c := (Parser.ofText text).cursor) hf
      exact ⟨items, h, fun _ h' => h'.eq h⟩
    · rintro ⟨items, h, -⟩
      have h : Derives items (Parser.ofText text).cursor.unread := h
      exact h.parse_eq.2
  · intro items h
    have h : Derives items (Parser.ofText text).cursor.unread := h
    exact h.parse_eq.1

theorem parse_faultless_two_items : ∃ items,
    Derives items (Lexer.ofText "(a = 1) or b ~ \"x\" limit 2").tokens ∧
      (Parser.ofText "(a = 1) or b ~ \"x\" limit 2").parse.2.faults = [] ∧
      (Parser.ofText "(a = 1) or b ~ \"x\" limit 2").parse.1 =
        ⟨some (.node (.connective .or)
            (.node (.comparison .eq) (.field "a") (.literal (.integer 1)))
            (.node (.comparison .like) (.field "b") (.literal (.text "x")))),
          [⟨.limit, .literal (.integer 2)⟩]⟩ := by
  let first : Operand := .group ⟨.leftParen, "(", 0, 1⟩
    (.clause (.comparison (.leaf ⟨.ident, "a", 1, 2⟩) ⟨.operator (.comparison .eq), "=", 3, 4⟩
      (.leaf ⟨.int, "1", 5, 6⟩))) ⟨.rightParen, ")", 6, 7⟩
  let second : Clause := .comparison (.leaf ⟨.ident, "b", 11, 12⟩)
    ⟨.operator (.comparison .like), "~", 13, 14⟩ (.leaf ⟨.string, "x", 15, 18⟩)
  let items : List Item :=
    [.expression (.linked (.clause (.operand first)) ⟨.operator (.connective .or), "or", 8, 10⟩
      second), .modifier ⟨.limit, "limit", 19, 24⟩ ⟨.int, "2", 25, 26⟩]
  have h : Derives items (Lexer.ofText "(a = 1) or b ~ \"x\" limit 2").tokens := by
    constructor
    · intro i hi
      apply Option.isSome_iff_exists.1
      revert i
      decide +kernel
    · decide +kernel
  obtain ⟨haccepted, hquery⟩ := parse_faultless_iff_derives "(a = 1) or b ~ \"x\" limit 2"
  refine ⟨items, h, haccepted.2 ⟨items, h, fun _ h' => h'.eq h⟩, ?_⟩
  rw [hquery items h]
  decide +kernel

end TicketQuery
