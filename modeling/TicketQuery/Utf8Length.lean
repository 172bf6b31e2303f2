/-! # Lengths in bytes

Places in a query are byte offsets into its UTF-8 form. -/
namespace TicketQuery

/-- The number of bytes that the characters take. -/
def utf8Length : List Char → Nat
  | [] => 0
  | c :: cs => c.utf8Size + utf8Length cs

@[simp] theorem utf8Length_nil : utf8Length [] = 0 := rfl

@[simp] theorem utf8Length_cons (c : Char) (cs : List Char) :
    utf8Length (c :: cs) = c.utf8Size + utf8Length cs := rfl

@[simp] theorem utf8Length_append (as bs : List Char) :
    utf8Length (as ++ bs) = utf8Length as + utf8Length bs := by
  induction as with
  | nil => simp
  | cons c as ih => simp [ih, Nat.add_assoc]

@[simp] theorem utf8Length_reverse (cs : List Char) : utf8Length cs.reverse = utf8Length cs := by
  induction cs with
  | nil => rfl
  | cons c cs ih => simp [ih, Nat.add_comm]

theorem length_le_utf8Length (cs : List Char) : cs.length ≤ utf8Length cs := by
  induction cs with
  | nil => simp
  | cons c cs ih => have := c.utf8Size_pos; simp; omega

theorem utf8ByteSize_ofList (cs : List Char) :
    (String.ofList cs).utf8ByteSize = utf8Length cs := by
  induction cs with
  | nil => rfl
  | cons c cs ih =>
    have h : String.ofList (c :: cs) = String.singleton c ++ String.ofList cs := by
      rw [← String.toList_inj]
      simp
    rw [h, String.utf8ByteSize_append, String.utf8ByteSize_singleton, ih, utf8Length_cons]

@[simp] theorem utf8Length_toList (s : String) : utf8Length s.toList = s.utf8ByteSize := by
  rw [← utf8ByteSize_ofList, String.ofList_toList]

/-- The characters that make up the first `n` bytes, and the rest; none if a character straddles
that place or the text is shorter. -/
def splitAtByte (n : Nat) (cs : List Char) : Option (List Char × List Char) :=
  if n = 0 then some ([], cs) else
    match cs with
    | [] => none
    | c :: cs =>
      if n < c.utf8Size then none
      else (splitAtByte (n - c.utf8Size) cs).map fun p => (c :: p.1, p.2)

theorem splitAtByte_append (as bs : List Char) :
    splitAtByte (utf8Length as) (as ++ bs) = some (as, bs) := by
  induction as with
  | nil => cases bs <;> simp [splitAtByte]
  | cons c as ih =>
    have hc := c.utf8Size_pos
    rw [utf8Length_cons, List.cons_append, splitAtByte, if_neg (by omega), if_neg (by omega),
      Nat.add_sub_cancel_left, ih]
    rfl

end TicketQuery
