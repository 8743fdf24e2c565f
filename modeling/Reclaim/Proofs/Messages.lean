import Mathlib
import Reclaim.Output

/-!
# Texts of diagnostics

The text of a diagnostic is a line, unless a label or a panic message in it is more than that; and it tells which
diagnostic it is, unless a label in it has a space.

* `Diagnostic.read?` : the diagnostic that a text tells of; `Diagnostic.text_identifies`;
* `Text.parts`, `Text.lines` : what newlines split a text into;
* `Sink.printed` : what standard output gets; `Sink.stdout_lines` : the lines of it.
-/

namespace Reclaim

/-! ## Addresses -/

namespace Address
variable {a : Address}

theorem toList_text (a : Address) : a.text.toList = Nat.toDigits 10 a.toNat := by
  rw [text, Nat.toString_eq_ofList_toDigits, String.toList_ofList]

theorem isDigit_of_mem_text {c : Char} (h : c ∈ a.text.toList) : c.isDigit = true := by
  rw [toList_text] at h
  exact Nat.isDigit_of_mem_toDigits (by decide) (by decide) h

theorem text_ne_nil (a : Address) : a.text.toList ≠ [] := by
  rw [toList_text]
  exact Nat.toDigits_ne_nil

/-- The address that digits stand for. -/
def ofDigits (cs : List Char) : Address := .ofNat (Nat.ofDigitChars 10 cs 0)

theorem ofDigits_text (a : Address) : ofDigits a.text.toList = a := by
  rw [ofDigits, toList_text, Nat.ofDigitChars_ten_toDigits, UInt64.ofNat_toNat]

end Address

/-! ## Reading a message -/

namespace Diagnostic
variable {d d' : Diagnostic}

/-- The label, if there is one, has no space in it. -/
def Spaceless : Diagnostic → Prop
  | destroyed (some label) _ => ' ' ∉ label.toList
  | _ => True

/-- What stands before the first space of the text. -/
def opening : Diagnostic → String
  | notProperlyClosed a | leakedAfterStop a => a.text
  | destroyed (some label) _ => label
  | destroyed none _ => "Destroyed"
  | interrupted => "Thread"
  | releaseFailed .. => "release"

/-- What stands behind the first space of the text. -/
def remainder : Diagnostic → String
  | notProperlyClosed _ => "not properly closed, doing it now"
  | destroyed (some _) a => "destroyed " ++ a.text
  | destroyed none a => a.text
  | interrupted => "Interrupted"
  | releaseFailed a message => "of " ++ a.text ++ " failed: " ++ message
  | leakedAfterStop _ => "leaked after reclaim worker stopped"

/-- The diagnostic of which a text tells that begins with a word and goes on like this after a space: the first letter
after the space tells the kind. -/
def ofWords? (word rest : List Char) : Option Diagnostic :=
  match rest.head? with
  | some 'n' => some (notProperlyClosed (.ofDigits word))
  | some 'd' => some (destroyed (some (.ofList word)) (.ofDigits (rest.drop 10)))
  | some 'I' => some interrupted
  | some 'o' =>
    some (releaseFailed (.ofDigits ((rest.drop 3).takeWhile Char.isDigit))
      (.ofList (((rest.drop 3).dropWhile Char.isDigit).drop 9)))
  | some 'l' => some (leakedAfterStop (.ofDigits word))
  | some c => if c.isDigit then some (destroyed none (.ofDigits rest)) else none
  | none => none

/-- The diagnostic of which a text tells. -/
def read? (text : String) : Option Diagnostic :=
  ofWords? (text.toList.takeWhile (· != ' ')) ((text.toList.dropWhile (· != ' ')).drop 1)

theorem toList_text (d : Diagnostic) : d.text.toList = d.opening.toList ++ ' ' :: d.remainder.toList := by
  cases d with
  | destroyed label a => cases label <;> simp [text, opening, remainder]
  | _ => simp [text, opening, remainder]

theorem space_notMem_opening (h : d.Spaceless) : ' ' ∉ d.opening.toList := by
  have hdigits : ∀ a : Address, ' ' ∉ a.text.toList := fun a hmem => by
    cases Address.isDigit_of_mem_text hmem
  cases d with
  | notProperlyClosed a => exact hdigits a
  | leakedAfterStop a => exact hdigits a
  | destroyed label a =>
    cases label with
    | none => simp [opening]
    | some label => exact h
  | interrupted => simp [opening]
  | releaseFailed a message => simp [opening]

/-- An address is all that digits are in front of something else. -/
theorem span_text (a : Address) {c : Char} (hc : c.isDigit = false) (cs : List Char) :
    (a.text.toList ++ c :: cs).takeWhile Char.isDigit = a.text.toList ∧
      (a.text.toList ++ c :: cs).dropWhile Char.isDigit = c :: cs := by
  have hall : ∀ x ∈ a.text.toList, x.isDigit = true := fun x hx => Address.isDigit_of_mem_text hx
  rw [List.takeWhile_append_of_pos hall, List.dropWhile_append_of_pos hall, List.takeWhile_cons, List.dropWhile_cons,
    if_neg (by simp [hc]), if_neg (by simp [hc]), List.append_nil]
  exact ⟨rfl, rfl⟩

/-- A text that is an address is one of a handle without a label. -/
theorem ofWords?_text (word : List Char) (a : Address) : ofWords? word a.text.toList = some (destroyed none a) := by
  obtain ⟨c, cs, hcs⟩ := List.exists_cons_of_ne_nil (Address.text_ne_nil a)
  have hc : c.isDigit = true := Address.isDigit_of_mem_text (hcs ▸ List.mem_cons_self)
  have hhead : a.text.toList.head? = some c := by rw [hcs, List.head?_cons]
  rw [ofWords?, hhead, Address.ofDigits_text]
  split
  -- no letter is a digit
  case h_6 _ _ _ _ _ _ heq =>
    cases heq
    rw [if_pos hc]
  case h_7 h => cases h
  all_goals
    next h =>
      cases h
      cases hc

theorem ofWords?_opening (d : Diagnostic) : ofWords? d.opening.toList d.remainder.toList = some d := by
  cases d with
  | notProperlyClosed a =>
    have hread : ∀ word rest, ofWords? word ('n' :: rest) = some (notProperlyClosed (.ofDigits word)) := fun _ _ => rfl
    have hrest : (notProperlyClosed a).remainder.toList = 'n' :: "ot properly closed, doing it now".toList := by
      simp [remainder]
    rw [hrest, hread]
    exact congrArg (fun a => some (notProperlyClosed a)) (Address.ofDigits_text a)
  | destroyed label a =>
    cases label with
    | none => exact ofWords?_text _ a
    | some label =>
      have hread : ∀ word cs, ofWords? word ("destroyed ".toList ++ cs) =
          some (destroyed (some (.ofList word)) (.ofDigits cs)) := fun _ _ => rfl
      rw [opening, remainder, String.toList_append, hread, Address.ofDigits_text, String.ofList_toList]
  | interrupted => rfl
  | releaseFailed a message =>
    have hread : ∀ word cs, ofWords? word ('o' :: 'f' :: ' ' :: cs) =
        some (releaseFailed (.ofDigits (cs.takeWhile Char.isDigit))
          (.ofList ((cs.dropWhile Char.isDigit).drop 9))) := fun _ _ => rfl
    have hspace : ' '.isDigit = false := by decide
    obtain ⟨htake, hdrop⟩ := span_text a hspace ("failed: ".toList ++ message.toList)
    have hrest : (releaseFailed a message).remainder.toList =
        'o' :: 'f' :: ' ' :: (a.text.toList ++ ' ' :: ("failed: ".toList ++ message.toList)) := by
      simp [remainder]
    have hmessage : (' ' :: ("failed: ".toList ++ message.toList)).drop 9 = message.toList := rfl
    rw [hrest, hread, htake, hdrop, Address.ofDigits_text, hmessage, String.ofList_toList]
  | leakedAfterStop a =>
    have hread : ∀ word rest, ofWords? word ('l' :: rest) = some (leakedAfterStop (.ofDigits word)) := fun _ _ => rfl
    have hrest : (leakedAfterStop a).remainder.toList = 'l' :: "eaked after reclaim worker stopped".toList := by
      simp [remainder]
    rw [hrest, hread]
    exact congrArg (fun a => some (leakedAfterStop a)) (Address.ofDigits_text a)

theorem read?_text (h : d.Spaceless) : read? d.text = some d := by
  have hall : ∀ c ∈ d.opening.toList, (c != ' ') = true := fun c hc => by
    rw [bne_iff_ne]
    rintro rfl
    exact space_notMem_opening h hc
  rw [read?, toList_text, List.takeWhile_append_of_pos hall, List.dropWhile_append_of_pos hall]
  simpa using ofWords?_opening d

/-- The text of a diagnostic tells which one it is, as long as there is no space in its label. -/
theorem text_identifies (d d' : Diagnostic) (h : d.Spaceless) (h' : d'.Spaceless) :
    (d.text = d'.text ↔ d = d') ∧ read? d.text = some d := by
  refine ⟨⟨fun heq => ?_, fun heq => heq ▸ rfl⟩, read?_text h⟩
  have hread := read?_text h
  rw [heq, read?_text h'] at hread
  exact (Option.some.inj hread).symm

/-- A label that is a word of another message, and a failure whose message quotes the diagnostic with that label. -/
theorem text_identifies_quoting :
    (destroyed (some "release") 5).Spaceless ∧ (releaseFailed 5 "release destroyed 5").Spaceless ∧
      ((destroyed (some "release") 5).text = (releaseFailed 5 "release destroyed 5").text ↔
        destroyed (some "release") 5 = releaseFailed 5 "release destroyed 5") ∧
      read? (destroyed (some "release") 5).text = some (destroyed (some "release") 5) := by
  have hlabel : (destroyed (some "release") 5).Spaceless := by simp [Spaceless]
  exact ⟨hlabel, trivial, text_identifies _ _ hlabel trivial⟩

-- with spaces in its label a message passes for another one
example : (destroyed (some "release of 5 failed: x") 9).text = (releaseFailed 5 "x destroyed 9").text := by cbv

/-! ## Lines -/

/-- What callers and callbacks have put into the text: a label, or the message of a panic. -/
def quoted : Diagnostic → String
  | destroyed (some label) _ => label
  | releaseFailed _ message => message
  | _ => ""

/-- The text has as many newlines as what is quoted in it. -/
theorem count_text (d : Diagnostic) : d.text.toList.count '\n' = d.quoted.toList.count '\n' := by
  have hdigits : ∀ a : Address, a.text.toList.count '\n' = 0 := fun a => List.count_eq_zero.mpr fun hmem => by
    cases Address.isDigit_of_mem_text hmem
  cases d with
  | destroyed label a =>
    cases label <;> simp only [text, quoted, String.toList_append, List.count_append, hdigits] <;> rfl
  | releaseFailed a message =>
    simp only [text, quoted, String.toList_append, List.count_append, hdigits]
    exact Nat.zero_add _
  | _ =>
    simp only [text, quoted, String.toList_append, List.count_append, hdigits]
    rfl

end Diagnostic

namespace Text
variable {s t : String}

/-- What a text falls into at its newlines. -/
def parts (s : String) : List String := (s.toList.splitOn '\n').map String.ofList

/-- The lines of a text: what stands before each newline. -/
def lines (s : String) : List String := (parts s).dropLast

/-- What stands behind the last newline. -/
def leftover (s : String) : Option String := (parts s).getLast?

theorem parts_append (s t : String) : parts (s ++ "\n" ++ t) = parts s ++ parts t := by
  rw [parts, parts, parts, ← List.map_append, ← List.splitOn_append_cons_self]
  simp

theorem parts_eq_singleton (h : '\n' ∉ s.toList) : parts s = [s] := by
  rw [parts, List.splitOn_eq_singleton h, List.map_singleton, String.ofList_toList]

/-- Newlines are one fewer than what they split a text into. -/
theorem length_parts (s : String) : (parts s).length = s.toList.count '\n' + 1 := by
  rw [parts, List.length_map]
  generalize s.toList = cs
  induction cs with
  | nil => simp
  | cons c cs ih =>
    rw [List.splitOn_cons_eq_if_modifyHead, List.count_cons]
    split
    · rw [List.length_cons, ih]
    · rw [List.length_modifyHead, ih, Nat.add_zero]

end Text

open Text

namespace Diagnostic
variable {ds : List Diagnostic}

theorem newline_mem_text {d : Diagnostic} : '\n' ∈ d.text.toList ↔ '\n' ∈ d.quoted.toList := by
  rw [← List.count_pos_iff, ← List.count_pos_iff, count_text]

theorem length_flatMap_parts (ds : List Diagnostic) :
    (ds.flatMap fun d => parts d.text).length = ds.length + (ds.map fun d => d.quoted.toList.count '\n').sum := by
  induction ds with
  | nil => rfl
  | cons d ds ih =>
    rw [List.flatMap_cons, List.length_append, ih, length_parts, count_text, List.length_cons, List.map_cons,
      List.sum_cons]
    omega

theorem length_flatMap_parts_iff :
    (ds.flatMap fun d => parts d.text).length = ds.length ↔ ∀ d ∈ ds, '\n' ∉ d.quoted.toList := by
  rw [length_flatMap_parts, Nat.add_eq_left, List.sum_eq_zero_iff, List.forall_mem_map]
  simp only [List.count_eq_zero]

theorem flatMap_parts_iff :
    (ds.flatMap fun d => parts d.text) = ds.map text ↔ ∀ d ∈ ds, '\n' ∉ d.quoted.toList := by
  refine ⟨fun h => ?_, fun h => ?_⟩
  · rw [← length_flatMap_parts_iff, h, List.length_map]
  · rw [List.map_eq_flatMap]
    exact List.flatMap_congr fun d hd => parts_eq_singleton fun hmem => h d hd (newline_mem_text.mp hmem)

end Diagnostic

namespace Sink

/-- What standard output gets for some diagnostics. -/
def printed (ds : List Diagnostic) : String := String.join (ds.map fun d => d.text ++ "\n")

theorem printed_cons (d : Diagnostic) (ds : List Diagnostic) : printed (d :: ds) = d.text ++ "\n" ++ printed ds := by
  simp [printed]

theorem deliverAll_stdout (o : Output) (ds : List Diagnostic) :
    stdout.deliverAll o ds = { o with text := o.text ++ printed ds } := by
  induction ds generalizing o with
  | nil => simp [deliverAll, printed]
  | cons d ds ih =>
    rw [deliverAll, List.foldl_cons]
    refine (ih _).trans ?_
    simp [deliver, Output.line, printed_cons, String.append_assoc]

/-- Each diagnostic ends a line, and may be several. -/
theorem parts_printed (ds : List Diagnostic) : parts (printed ds) = (ds.flatMap fun d => parts d.text) ++ [""] := by
  induction ds with
  | nil => simp [printed, parts]
  | cons d ds ih => rw [printed_cons, parts_append, ih, List.flatMap_cons, List.append_assoc]

theorem lines_printed (ds : List Diagnostic) : lines (printed ds) = ds.flatMap fun d => parts d.text := by
  rw [lines, parts_printed, List.dropLast_concat]

/-- What standard output gets for some diagnostics is their texts, with a newline behind each. Its lines are the texts,
or as many as there are diagnostics, exactly if there is no newline in a label or in the message of a panic; with one in
its label, a diagnostic prints the same as two. -/
theorem stdout_lines (o : Output) (ds : List Diagnostic) :
    ∃ out, stdout.deliverAll o ds = { o with text := o.text ++ out } ∧ leftover out = some "" ∧
      lines out = (ds.flatMap fun d => parts d.text) ∧
      (lines out = ds.map Diagnostic.text ↔ ∀ d ∈ ds, '\n' ∉ d.quoted.toList) ∧
      ((lines out).length = ds.length ↔ ∀ d ∈ ds, '\n' ∉ d.quoted.toList) ∧
      ∀ d label a, stdout.deliverAll o (.destroyed (some (d.text ++ "\n" ++ label)) a :: ds) =
        stdout.deliverAll o (d :: .destroyed (some label) a :: ds) := by
  refine ⟨printed ds, deliverAll_stdout o ds, ?_, lines_printed ds, ?_, ?_, fun d label a => ?_⟩
  · rw [leftover, parts_printed, List.getLast?_concat]
  · rw [lines_printed, Diagnostic.flatMap_parts_iff]
  · rw [lines_printed, Diagnostic.length_flatMap_parts_iff]
  · rw [deliverAll_stdout, deliverAll_stdout, printed_cons, printed_cons, printed_cons]
    simp [Diagnostic.text, String.append_assoc]

end Sink

end Reclaim
