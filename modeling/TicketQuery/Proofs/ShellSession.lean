import TicketQuery.Proofs.StatementTokens
import TicketQuery.Shell

/-! # Sessions line by line

A session that has started prints its answers to the lines one after the other, up to the line that
ends it. Nothing else ends it, as long as the lines can be read and no backslash hides a quote of
the collection's name, and no answer depends on other lines. -/
namespace TicketQuery

namespace TypedLine

/-- A line of clusters whose sizes fit into a byte. -/
inductive IsTyped : TypedLine → Prop where
  | empty : IsTyped empty
  | append {t : TypedLine} {cluster : List Char} (ht : IsTyped t) (h : utf8Length cluster < 256) :
      IsTyped (t.append cluster)

namespace IsTyped

theorem exists_takeBack? {t : TypedLine} (ht : IsTyped t) :
    ∃ u, t.takeBack? = some u ∧ IsTyped u := by
  cases ht with
  | empty => exact ⟨TypedLine.empty, rfl, .empty⟩
  | append hu h => exact ⟨_, takeBack?_append h, hu⟩

theorem exists_type? {t : TypedLine} (ht : IsTyped t) {cluster : List Char}
    (h : utf8Length cluster < 256) : ∃ u, t.type? cluster = some u ∧ IsTyped u := by
  unfold type?
  split
  · exact ht.exists_takeBack?
  · exact ⟨_, rfl, ht.append h⟩

theorem isSome_ofClusters? {t : TypedLine} (ht : IsTyped t) {clusters : List (List Char)}
    (h : ∀ k ∈ clusters, utf8Length k < 256) : (t.ofClusters? clusters).isSome := by
  induction clusters generalizing t with
  | nil => rfl
  | cons k ks ih =>
    obtain ⟨hk, hks⟩ := List.forall_mem_cons.1 h
    obtain ⟨u, hu, hut⟩ := ht.exists_type? hk
    have := ih hut hks
    simpa [ofClusters?, hu] using this

end IsTyped

end TypedLine

/-- Backspaces only cut a character behind a cluster of 256 bytes or more. -/
theorem isSome_typedLine? {line : List Char} (h : ∀ k ∈ graphemeClusters line, utf8Length k < 256) :
    (typedLine? line).isSome := by
  rw [typedLine?, Option.isSome_map]
  exact TypedLine.IsTyped.empty.isSome_ofClusters? h

namespace Shell

/-- What a line says, without the white space around it. None if the line is no text or an edit of
it cuts a character. -/
def typedText? (line : List UInt8) : Option (List Char) :=
  (textOfBytes? line).bind fun text => (typedLine? (withoutReturn text.toList)).map trim

/-- A text can be read unless it has a cluster of 256 bytes or more. -/
theorem isSome_typedText? {line : List UInt8} {text : String}
    (htext : textOfBytes? line = some text)
    (h : ∀ k ∈ graphemeClusters (withoutReturn text.toList), utf8Length k < 256) :
    (typedText? line).isSome := by
  rw [typedText?, htext, Option.bind_some, Option.isSome_map]
  exact isSome_typedLine? h

/-- A text without backspaces can be read. -/
theorem typedText?_of_not_mem {line : List UInt8} {text : String}
    (htext : textOfBytes? line = some text) (h : TypedLine.backspace ∉ text.toList) :
    typedText? line = some (trim (withoutReturn text.toList)) := by
  have hline : TypedLine.backspace ∉ withoutReturn text.toList := by
    unfold withoutReturn
    split
    · exact fun hm => h ((List.dropLast_sublist _).subset hm)
    · exact h
  rw [typedText?, htext, Option.bind_some, typedLine?_of_not_mem hline, Option.map_some]

def isQuit (line : List UInt8) : Bool := typedText? line = some ":quit".toList

/-- The lines before the first one that ends the session. -/
def answeredLines (input : List UInt8) : List (List UInt8) :=
  (inputLines input).takeWhile fun line => !isQuit line

variable {config : Config}

theorem exit_selectReply (hname : KeepsQuotes config.collection) (q : Query) :
    (selectReply (Select.ofQuery config q)).exit = none := by
  cases h : Select.ofQuery config q with
  | error fault => rfl
  | ok select =>
    obtain ⟨sql, hsql⟩ := Option.isSome_iff_exists.1 (Select.isSome_toSql_of_ofQuery hname h)
    simp only [selectReply, hsql]

theorem exit_queryReply (hname : KeepsQuotes config.collection) (line : String) :
    (queryReply config line).exit = none := by
  unfold queryReply
  split
  · rfl
  · exact exit_selectReply hname _

theorem exit_trimmedReply (hname : KeepsQuotes config.collection) {line : List Char}
    (hline : line ≠ ":quit".toList) : (trimmedReply config line).exit = none := by
  unfold trimmedReply
  rw [if_neg hline]
  split
  · rfl
  · split
    · rfl
    · exact exit_queryReply hname _

theorem rawReply_of_typedText? {line : List UInt8} {typed : List Char}
    (h : typedText? line = some typed) : rawReply config line = trimmedReply config typed := by
  obtain ⟨text, htext, h⟩ := Option.bind_eq_some_iff.1 h
  obtain ⟨cs, hcs, rfl⟩ := Option.map_eq_some_iff.1 h
  simp only [rawReply, htext, reply, hcs]

theorem rawReply_of_isQuit {line : List UInt8} (h : isQuit line = true) :
    rawReply config line = ⟨"", some .done⟩ := by
  rw [rawReply_of_typedText? (of_decide_eq_true h)]
  rfl

theorem exit_rawReply (hname : KeepsQuotes config.collection) {line : List UInt8}
    (hread : (typedText? line).isSome) (hquit : isQuit line = false) :
    (rawReply config line).exit = none := by
  obtain ⟨typed, ht⟩ := Option.isSome_iff_exists.1 hread
  rw [rawReply_of_typedText? ht]
  refine exit_trimmedReply hname fun he => ?_
  rw [he] at ht
  exact of_decide_eq_false hquit ht

theorem converse_eq (hname : KeepsQuotes config.collection) {lines : List (List UInt8)}
    (hread : ∀ line ∈ lines.takeWhile fun line => !isQuit line, (typedText? line).isSome) :
    converse config lines = ⟨String.join ((lines.takeWhile fun line => !isQuit line).map
      fun line => (rawReply config line).text), .done⟩ := by
  induction lines with
  | nil => rfl
  | cons line lines ih =>
    rw [converse]
    cases hquit : isQuit line with
    | true => simp [rawReply_of_isQuit hquit, hquit]
    | false =>
      simp only [List.takeWhile_cons, hquit, Bool.not_false, if_true] at hread ⊢
      obtain ⟨hline, hlines⟩ := List.forall_mem_cons.1 hread
      simp only [exit_rawReply hname hline hquit, ih hlines, List.map_cons, String.join_cons]

theorem not_mem_of_mem_inputLines {input line : List UInt8} (h : line ∈ inputLines input) :
    '\n'.toUInt8 ∉ line := by
  unfold inputLines at h
  induction input generalizing line with
  | nil =>
    obtain rfl := List.mem_singleton.1 h
    exact List.not_mem_nil
  | cons b input ih =>
    rw [List.splitOn_cons_eq_if_modifyHead] at h
    obtain ⟨first, rest, hsplit⟩ := List.exists_cons_of_ne_nil
      (List.splitOn_ne_nil '\n'.toUInt8 input)
    rw [hsplit] at h ih
    split at h
    · rcases List.mem_cons.1 h with rfl | h
      · exact List.not_mem_nil
      · exact ih h
    · next hb =>
      rcases List.mem_cons.1 h with rfl | h
      · have hb : '\n'.toUInt8 ≠ b := fun he => hb (beq_of_eq he.symm)
        exact List.not_mem_cons_of_ne_of_not_mem hb (ih List.mem_cons_self)
      · exact ih (List.mem_cons_of_mem _ h)

theorem answeredLines_of_not_mem {line : List UInt8} (h : '\n'.toUInt8 ∉ line) :
    answeredLines line = if isQuit line then [] else [line] := by
  rw [answeredLines, inputLines, List.splitOn_eq_singleton h]
  cases hquit : isQuit line <;> simp [hquit]

/-- A session that has started prints the answers to its lines in order, each of them the one that
the line gets in a session of its own. A blank line has none, and the session ends well. -/
theorem run_eq_join {arguments : List String} {file : FileState} {text : String}
    (hstart : start arguments file = (text, .ok config)) (hname : KeepsQuotes config.collection) :
    ∃ answer : List UInt8 → String, ∀ input : List UInt8,
      (∀ line ∈ answeredLines input, (typedText? line).isSome) →
      run arguments file input =
        ⟨banner ++ text ++ String.join ((answeredLines input).map answer), .done⟩ ∧
      ∀ line ∈ answeredLines input,
        run arguments file line = ⟨banner ++ text ++ answer line, .done⟩ ∧
          (typedText? line = some [] → answer line = "") := by
  have hrun : ∀ input, (∀ line ∈ answeredLines input, (typedText? line).isSome) →
      run arguments file input = ⟨banner ++ text ++ String.join ((answeredLines input).map
        fun line => (rawReply config line).text), .done⟩ := by
    intro input hread
    simp only [run, hstart, converse_eq hname hread]
    rfl
  refine ⟨fun line => (rawReply config line).text, fun input hread => ⟨hrun input hread, ?_⟩⟩
  intro line hline
  constructor
  · have hquit : isQuit line = false := by
      simpa using List.all_eq_true.1 List.all_takeWhile line hline
    have hself : answeredLines line = [line] := by
      have hmem : line ∈ inputLines input := (List.takeWhile_sublist _).subset hline
      rw [answeredLines_of_not_mem (not_mem_of_mem_inputLines hmem), hquit]
      rfl
    have hone := hrun line (by simpa [hself] using hread line hline)
    simpa [hself] using hone
  · intro hblank
    simp only [rawReply_of_typedText? hblank]
    rfl

/-- A session without a configuration file. -/
theorem run_eq_join_missing : ∃ answer : List UInt8 → String,
    let text := "⚠ Configuration error: config file not found: ticketql.json, using default config\n"
    let first := "points >= 3".toUTF8.toList
    let blank := " \r".toUTF8.toList
    let input := "points >= 3\n \r\n:quit\nkey".toUTF8.toList
    run [] .missing input = ⟨banner ++ text ++ answer first, .done⟩ ∧
      run [] .missing first = ⟨banner ++ text ++ answer first, .done⟩ ∧
      run [] .missing blank = ⟨banner ++ text, .done⟩ := by
  obtain ⟨answer, h⟩ := @run_eq_join {} [] .missing _ rfl (by decide)
  let first := "points >= 3".toUTF8.toList
  let blank := " \r".toUTF8.toList
  let input := "points >= 3\n \r\n:quit\nkey".toUTF8.toList
  have hlines : answeredLines input = [first, blank] := by decide +kernel
  have hread : ∀ line ∈ answeredLines input, (typedText? line).isSome := by
    have hfirst : textOfBytes? first = some "points >= 3" := by decide +kernel
    have hblank : textOfBytes? blank = some " \r" := by decide +kernel
    rw [hlines, List.forall_mem_cons, List.forall_mem_singleton]
    exact ⟨isSome_typedText? hfirst (by decide +kernel),
      isSome_typedText? hblank (by decide +kernel)⟩
  obtain ⟨hrun, hone⟩ := h input hread
  have hfirst := (hone first (by simp [hlines])).1
  obtain ⟨hblank, hanswer⟩ := hone blank (by simp [hlines])
  have hanswer := hanswer (by decide +kernel)
  have hjoin : String.join ([first, blank].map answer) = answer first := by
    rw [List.map_cons, List.map_singleton, hanswer]
    simp
  refine ⟨answer, ?_, hfirst, ?_⟩
  · rw [hlines, hjoin] at hrun
    exact hrun
  · rw [hanswer, String.append_empty] at hblank
    exact hblank

/-- A query whose condition has no text ends the session. -/
theorem not_forall_run_done : ¬ ∀ (arguments : List String) (file : FileState) (text : String)
    (config : Config) (input : List UInt8), start arguments file = (text, .ok config) →
      (∀ line ∈ answeredLines input, (typedText? line).isSome) →
        (run arguments file input).exit = .done := by
  intro h
  let file := FileState.content "\x7b\"custom_field_collection\": \"\\\\\\\" $9 \"\x7d".toUTF8.toList
  have hstart : start [] file = ("✓ loaded config from ticketql.json\n",
      .ok { collection := "\\\" $9 " }) := by
    decide +kernel
  let line := "points = 5".toUTF8.toList
  have htext : textOfBytes? line = some "points = 5" := by decide +kernel
  have htyped : typedText? line = some "points = 5".toList :=
    typedText?_of_not_mem htext (by decide)
  have hlines : inputLines line = [line] := List.splitOn_eq_singleton (by decide +kernel)
  have hread : ∀ l ∈ answeredLines line, (typedText? l).isSome := by
    intro l hl
    have hl := (List.takeWhile_sublist _).subset hl
    rw [hlines, List.mem_singleton] at hl
    rw [hl, htyped]
    rfl
  have hdone := h [] file _ _ line hstart hread
  simp only [run, hstart, hlines, converse, rawReply_of_typedText? htyped] at hdone
  exact absurd hdone (by decide +kernel)

end Shell

end TicketQuery
