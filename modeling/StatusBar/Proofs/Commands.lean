import StatusBar.Proofs.Trimming
import StatusBar.Session
import StatusBar.Widget.Builtin

/-!
# Lines of commands

A line is cut at its first two spaces, after the blanks around it are taken away. Blanks are more
than spaces, and spaces may follow each other: still a command is read from a line if and only if
the line without its blanks is the command in its written form (`Command.parse_eq_some_iff`). So no
field is shifted, and no character is lost.
-/

namespace StatusBar

open Clock (Moment)
open Text (AllBlank IsTight)

/-! ### Cutting at two spaces -/

namespace Text

variable {sep : Char} {first second third : List Char}

theorem splitCharsAtMost_of_not_mem (h : sep ∉ first) (n : Nat) :
    splitCharsAtMost sep n first = [first] := by
  cases n with
  | zero => rfl
  | succ n => rw [splitCharsAtMost, cut_of_not_mem h]

theorem splitCharsAtMost_append (h : sep ∉ first) (n : Nat) (rest : List Char) :
    splitCharsAtMost sep (n + 1) (first ++ sep :: rest) =
      first :: splitCharsAtMost sep n rest := by
  rw [splitCharsAtMost, cut_append h]

end Text

namespace Command

/-! ### The written form of a command -/

/-- The line of a command. Without data there is no second space. -/
def written (c : Command) : String :=
  c.target ++ " " ++ c.action ++ if c.data = "" then "" else " " ++ c.data

def parts (c : Command) : List (List Char) :=
  c.target.toList :: c.action.toList :: if c.data = "" then [] else [c.data.toList]

/-- The written form of the command has no blanks at its ends, and no spaces but the one or two of
its own and those in the data. -/
structure IsWritable (c : Command) : Prop where
  target_ne_empty : c.target ≠ ""
  not_mem_target : ' ' ∉ c.target.toList
  not_mem_action : ' ' ∉ c.action.toList
  first : ∀ d ∈ c.target.toList.head?, Text.isBlank d = false
  last : ∀ d ∈ c.written.toList.getLast?, Text.isBlank d = false

variable {line : String} {c : Command}

/-- A command is written as its words with a space between them, and without one at the end if there
is no data. -/
theorem toList_written (c : Command) :
    c.written.toList = c.target.toList ++ ' ' :: (c.action.toList ++
      if c.data = "" then [] else ' ' :: c.data.toList) := by
  unfold written
  split <;> simp

/-- What is written of a command is split into its parts again. Only the data may have spaces. -/
theorem splitCharsAtMost_written (htarget : ' ' ∉ c.target.toList)
    (haction : ' ' ∉ c.action.toList) :
    Text.splitCharsAtMost ' ' 2 c.written.toList = c.parts := by
  rw [toList_written, Text.splitCharsAtMost_append htarget, parts]
  split
  · rw [List.append_nil, Text.splitCharsAtMost_of_not_mem haction]
  · rw [Text.splitCharsAtMost_append haction, Text.splitCharsAtMost]

/-- What is cut into the parts of a command is read as the command. -/
theorem parse_of_splitCharsAtMost
    (h : Text.splitCharsAtMost ' ' 2 (Text.trimChars line.toList) = c.parts) :
    parse line = some c := by
  obtain ⟨target, action, data⟩ := c
  rw [parse, h, parts]
  by_cases hdata : data = "" <;> simp [hdata]

/-- A line that is a written command between blanks is read as this command. -/
theorem parse_of_trim_eq (htarget : ' ' ∉ c.target.toList) (haction : ' ' ∉ c.action.toList)
    (h : Text.trim line = c.written) : parse line = some c := by
  apply parse_of_splitCharsAtMost
  rw [← splitCharsAtMost_written htarget haction, ← h, Text.trim, String.toList_ofList]

theorem parse_of_not_mem (h : ' ' ∉ (Text.trim line).toList) : parse line = none := by
  rw [Text.trim, String.toList_ofList] at h
  rw [parse, Text.splitCharsAtMost_of_not_mem h]

/-- Every line with a space between its ends is a command in its written form. -/
theorem exists_written (h : ' ' ∈ (Text.trim line).toList) :
    ∃ c : Command, ' ' ∉ c.target.toList ∧ ' ' ∉ c.action.toList ∧ Text.trim line = c.written := by
  have htight : IsTight (Text.trim line).toList := by
    rw [Text.trim, String.toList_ofList]
    exact Text.isTight_trimChars _
  obtain ⟨target, rest, heq, htarget⟩ := List.eq_append_cons_of_mem h
  by_cases hrest : ' ' ∈ rest
  · obtain ⟨action, data, rfl, haction⟩ := List.eq_append_cons_of_mem hrest
    have hdata : data ≠ [] := by
      rintro rfl
      have hlast : (Text.trim line).toList.getLast? = some ' ' := by
        rw [heq, ← List.cons_append, ← List.append_assoc, List.getLast?_concat]
      exact absurd (htight.last ' ' hlast) (by decide)
    refine ⟨⟨.ofList target, .ofList action, .ofList data⟩, by simpa, by simpa, ?_⟩
    apply String.toList_injective
    simp [heq, toList_written, hdata]
  · refine ⟨⟨.ofList target, .ofList rest, ""⟩, by simpa, by simpa, ?_⟩
    apply String.toList_injective
    simp [heq, toList_written]

/-- **A line is read as a command exactly if it is that command, but for the blanks around it.** -/
theorem parse_eq_some_iff : parse line = some c ↔
    ' ' ∉ c.target.toList ∧ ' ' ∉ c.action.toList ∧ Text.trim line = c.written := by
  constructor
  · intro h
    by_cases hspace : ' ' ∈ (Text.trim line).toList
    · obtain ⟨c', htarget, haction, hwritten⟩ := exists_written hspace
      rw [parse_of_trim_eq htarget haction hwritten] at h
      cases h
      exact ⟨htarget, haction, hwritten⟩
    · rw [parse_of_not_mem hspace] at h
      cases h
  · rintro ⟨htarget, haction, hwritten⟩
    exact parse_of_trim_eq htarget haction hwritten

/-- A command that can be written neither begins nor ends with a blank. -/
theorem IsWritable.isTight (h : c.IsWritable) : IsTight c.written.toList where
  first d hd := by
    refine h.first d ?_
    cases htarget : c.target.toList with
    | nil => exact absurd (String.toList_eq_nil_iff.mp htarget) h.target_ne_empty
    | cons d' rest =>
      rw [toList_written, htarget] at hd
      exact hd
  last := h.last

theorem IsWritable.parse (h : c.IsWritable) {before after : String}
    (hbefore : AllBlank before.toList) (hafter : AllBlank after.toList) :
    parse (before ++ c.written ++ after) = some c := by
  refine parse_eq_some_iff.mpr ⟨h.not_mem_target, h.not_mem_action, ?_⟩
  apply String.toList_injective
  rw [Text.trim, String.toList_ofList, String.toList_append, String.toList_append,
    Text.trimChars_append hbefore hafter h.isTight]

end Command

/-! ### Lines in a session -/

namespace Session

variable {ω : Type} [Widget ω]

/-- Hands a command to the bar, once, and reacts to what comes of it. -/
def obey (s : Session ω) (now : Moment) (c : Command) : Reply × Session ω :=
  let r := s.bar.input now c.target c.action c.data
  let reply : Reply := match r.result with
    | .ok true => .handled
    | .ok false => .unhandled
    | .error p => .panicked p
  (reply, { s with bar := r.state }.rest)

/-- A line that is a command is obeyed. -/
theorem command_of_parse_eq_some {s : Session ω} {now : Moment} {line : String} {c : Command}
    (h : Command.parse line = some c) : s.command now line = s.obey now c := by
  simp only [command, h, obey]
  cases (s.bar.input now c.target c.action c.data).result with
  | error p => rfl
  | ok taken => cases taken <;> rfl

theorem command_of_parse_eq_none {s : Session ω} {now : Moment} {line : String}
    (h : Command.parse line = none) : s.command now line = (.malformed, s) := by
  rw [command, h]

/-- **Lines decode to the commands that are written in them.** -/
theorem lines_decode_to_commands (s : Session ω) (now : Moment) :
    (∀ c : Command, c.IsWritable → ∀ before after : String,
      AllBlank before.toList → AllBlank after.toList →
        s.command now (before ++ c.written ++ after) = s.obey now c) ∧
    ∀ line,
      (' ' ∉ (Text.trim line).toList → s.command now line = (.malformed, s)) ∧
      (' ' ∈ (Text.trim line).toList → ∃ c : Command, s.command now line = s.obey now c ∧
        ' ' ∉ c.target.toList ∧ ' ' ∉ c.action.toList ∧ c.written = Text.trim line ∧
        Text.splitCharsAtMost ' ' 2 (Text.trim line).toList = c.parts) := by
  refine ⟨fun c hc before after hbefore hafter => ?_, fun line => ⟨fun h => ?_, fun h => ?_⟩⟩
  · exact command_of_parse_eq_some (hc.parse hbefore hafter)
  · exact command_of_parse_eq_none (Command.parse_of_not_mem h)
  · obtain ⟨c, htarget, haction, hwritten⟩ := Command.exists_written h
    refine ⟨c, command_of_parse_eq_some (Command.parse_of_trim_eq htarget haction hwritten),
      htarget, haction, hwritten.symm, ?_⟩
    rw [hwritten, Command.splitCharsAtMost_written htarget haction]

/-- Data with spaces in front and inside, on a line with other blanks around. -/
theorem lines_decode_to_commands_spaces :
    let s : Session Builtin := { bar := (Bar.build Builtin.catalog {}).1, watching := false }
    let c : Command := ⟨"clock", "toggle", "  a  b"⟩
    c.IsWritable ∧ s.command default "\t clock toggle   a  b \r\n" = s.obey default c := by
  intro s c
  have hfirst : c.target.toList.head? = some 'c' := by decide +kernel
  have hlast : c.written.toList.getLast? = some 'b' := by decide +kernel
  have hc : c.IsWritable := by
    refine ⟨by decide +kernel, by decide +kernel, by decide +kernel, fun d hd => ?_, fun d hd => ?_⟩
    · cases hfirst.symm.trans hd
      decide
    · cases hlast.symm.trans hd
      decide
  have hblank : AllBlank "\t ".toList ∧ AllBlank " \r\n".toList := by decide +kernel
  exact ⟨hc, (lines_decode_to_commands s default).1 c hc _ _ hblank.1 hblank.2⟩

end Session

end StatusBar
