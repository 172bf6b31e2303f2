import TicketQuery.GraphemeCluster
import TicketQuery.Utf8Length

/-! # Lines as they are typed

A backspace in a line takes back the cluster before it. How much that is has been noted when the
cluster was typed, as a number of bytes that is kept in a byte. -/
namespace TicketQuery

/-- What has been typed, from its end, and the sizes of its clusters, the last one first. -/
structure TypedLine where
  text : List Char
  sizes : List UInt8
  deriving DecidableEq, Repr

namespace TypedLine

def backspace : Char := '\x08'

def empty : TypedLine := ⟨[], []⟩

def append (t : TypedLine) (cluster : List Char) : TypedLine where
  text := cluster.reverse ++ t.text
  sizes := (utf8Length cluster).toUInt8 :: t.sizes

/-- Takes back the last cluster, if there is one. There is no answer where that cuts a character. -/
def takeBack? (t : TypedLine) : Option TypedLine :=
  match t.sizes with
  | [] => some t
  | size :: sizes => (splitAtByte size.toNat t.text).map fun p => ⟨p.2, sizes⟩

def type? (t : TypedLine) (cluster : List Char) : Option TypedLine :=
  if cluster = [backspace] then t.takeBack? else some (t.append cluster)

def ofClusters? (t : TypedLine) (clusters : List (List Char)) : Option TypedLine :=
  clusters.foldlM type? t

/-- A backspace undoes what was typed last, as long as its size fits into a byte. -/
theorem takeBack?_append {t : TypedLine} {cluster : List Char} (h : utf8Length cluster < 256) :
    (t.append cluster).takeBack? = some t := by
  have hsize : (utf8Length cluster).toUInt8.toNat = utf8Length cluster.reverse := by
    rw [utf8Length_reverse]
    exact Nat.mod_eq_of_lt h
  simp only [takeBack?, append, hsize, splitAtByte_append, Option.map_some]

theorem ofClusters?_of_not_mem {t : TypedLine} {clusters : List (List Char)}
    (h : [backspace] ∉ clusters) :
    (t.ofClusters? clusters).map text = some (clusters.flatten.reverse ++ t.text) := by
  induction clusters generalizing t with
  | nil => rfl
  | cons k ks ih =>
    have hk : ¬k = [backspace] := fun hk => h (hk ▸ List.mem_cons_self)
    have := ih (fun hm => h (List.mem_cons_of_mem _ hm)) (t := t.append k)
    simpa [ofClusters?, type?, hk, append] using this

end TypedLine

/-- A line after its backspaces, none if one of them would cut a character. -/
def typedLine? (line : List Char) : Option (List Char) :=
  (TypedLine.empty.ofClusters? (graphemeClusters line)).map fun t => t.text.reverse

theorem typedLine?_of_not_mem {line : List Char} (h : TypedLine.backspace ∉ line) :
    typedLine? line = some line := by
  have hk : [TypedLine.backspace] ∉ graphemeClusters line := fun hm =>
    h (flatten_graphemeClusters line ▸ List.mem_flatten.2 ⟨_, hm, List.mem_singleton.2 rfl⟩)
  have := TypedLine.ofClusters?_of_not_mem hk (t := TypedLine.empty)
  cases ht : TypedLine.empty.ofClusters? (graphemeClusters line) with
  | none => simp [ht] at this
  | some t =>
    simp only [ht, Option.map_some, flatten_graphemeClusters, Option.some.injEq] at this
    rw [typedLine?, ht, Option.map_some, this, TypedLine.empty, List.append_nil,
      List.reverse_reverse]

example : typedLine? "ab\x08c".toList = some "ac".toList := by decide +kernel
example : typedLine? "e\u0301\x08\x08x".toList = some "x".toList := by decide +kernel

end TicketQuery
