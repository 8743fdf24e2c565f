import Mathlib
import Reclaim.Config

/-!
# Names of modes

A text names a mode when it is one of the mode's spellings, in letters of either case, with any white space
around it. What the environment holds is read the same way, if it is a text at all.

* `Text.Blank`, `Text.SameLetters` : white space, and texts that differ in the case of ASCII letters only;
* `Text.exists_trim`, `Text.trim_pad` : what is left of a text, and that padding does not count;
* `Mode.Names` : the grammar of the names; `Mode.names_iff` : the same, by the normalised text;
* `Mode.parse_eq_ok`, `Mode.parse_eq_error` : what is read off a text; `Mode.Legible`, `Mode.legible` : all of that;
* `Config.Heeds`, `Config.environment_heeded` : what is read off the environment.
-/

namespace Reclaim

namespace Text

/-! ## White space -/

/-- Nothing but white space. -/
def Blank (s : String) : Prop := ∀ c ∈ s.toList, isBlank c = true

/-- No white space at either end. -/
def Tight (s : String) : Prop := (∀ c ∈ s.toList.head?, isBlank c = false) ∧ ∀ c ∈ s.toList.getLast?, isBlank c = false

theorem isBlank_of_isAlpha {c : Char} (h : c.isAlpha = true) : isBlank c = false := by
  have hrange : 65 ≤ c.toNat ∧ c.toNat ≤ 90 ∨ 97 ≤ c.toNat ∧ c.toNat ≤ 122 := by
    simpa [Char.isAlpha, Char.isUpper, Char.isLower, UInt32.le_iff_toNat_le] using h
  simp [isBlank]
  omega

theorem trimChars_eq (cs : List Char) : trimChars cs = (cs.dropWhile isBlank).rdropWhile isBlank := rfl

theorem dropWhile_append_of_blank {us cs : List Char} (h : ∀ c ∈ us, isBlank c = true) :
    (us ++ cs).dropWhile isBlank = cs.dropWhile isBlank := by
  rw [List.dropWhile_append, List.dropWhile_eq_nil_iff.mpr h, List.isEmpty_nil, if_pos rfl]

theorem rdropWhile_append_of_blank {cs us : List Char} (h : ∀ c ∈ us, isBlank c = true) :
    (cs ++ us).rdropWhile isBlank = cs.rdropWhile isBlank := by
  rw [List.rdropWhile, List.reverse_append, dropWhile_append_of_blank fun c hc => h c (List.mem_reverse.mp hc),
    List.rdropWhile]

/-- White space around a text does not count. -/
theorem trim_pad {s w₁ w₂ : String} (h₁ : Blank w₁) (h₂ : Blank w₂) : trim (w₁ ++ s ++ w₂) = trim s := by
  rw [trim, trim, trimChars_eq, trimChars_eq, String.toList_append, String.toList_append, List.append_assoc,
    dropWhile_append_of_blank h₁, List.dropWhile_append]
  split
  · next hempty =>
    rw [List.isEmpty_iff.mp hempty, List.dropWhile_eq_nil_iff.mpr h₂]
  · rw [rdropWhile_append_of_blank h₂]

theorem head?_rdropWhile {cs : List Char} (h : ∀ c ∈ cs.head?, isBlank c = false) :
    ∀ c ∈ (cs.rdropWhile isBlank).head?, isBlank c = false := by
  intro c hc
  obtain ⟨us, hus⟩ := List.rdropWhile_prefix isBlank cs
  refine h c ?_
  rw [← hus, List.head?_append, hc]
  rfl

/-- A text is what is left of it when it is trimmed, with white space around it. -/
theorem exists_trim (s : String) : ∃ w₁ w₂, Blank w₁ ∧ Blank w₂ ∧ s = w₁ ++ trim s ++ w₂ ∧ Tight (trim s) := by
  refine ⟨.ofList (s.toList.takeWhile isBlank), .ofList ((s.toList.dropWhile isBlank).rtakeWhile isBlank), ?_, ?_, ?_,
    ?_, ?_⟩
  · intro c hc
    rw [String.toList_ofList] at hc
    exact List.mem_takeWhile_imp hc
  · intro c hc
    rw [String.toList_ofList] at hc
    exact List.mem_rtakeWhile_imp hc
  · rw [trim, trimChars_eq, ← String.ofList_append, ← String.ofList_append, List.append_assoc,
      List.rdropWhile_append_rtakeWhile, List.takeWhile_append_dropWhile, String.ofList_toList]
  · rw [trim, String.toList_ofList, trimChars_eq]
    refine head?_rdropWhile fun c hc => ?_
    have hhead := List.head?_dropWhile_not isBlank s.toList
    rw [Option.mem_def.mp hc] at hhead
    exact hhead
  · rw [trim, String.toList_ofList, trimChars_eq]
    intro c hc
    obtain ⟨hne, rfl⟩ := List.mem_getLast?_eq_getLast hc
    exact Bool.eq_false_of_not_eq_true (List.rdropWhile_last_not isBlank _ hne)

/-- Trimming leaves a text alone that has no white space at either end. -/
theorem trim_eq_self {s : String} (h : Tight s) : trim s = s := by
  have hdrop : s.toList.dropWhile isBlank = s.toList := List.dropWhile_eq_self_iff.mpr fun hl => by
    rw [Bool.not_eq_true]
    exact h.1 _ (by rw [List.head?_eq_getElem?, List.getElem?_eq_getElem hl]; rfl)
  have hrdrop : s.toList.rdropWhile isBlank = s.toList := List.rdropWhile_eq_self_iff.mpr fun hl => by
    rw [Bool.not_eq_true]
    exact h.2 _ (List.getLast?_eq_getLast_of_ne_nil hl)
  rw [trim, trimChars_eq, hdrop, hrdrop, String.ofList_toList]

/-! ## Letters of either case -/

/-- A capital of the ASCII alphabet and the small letter for it. -/
def IsCapitalOf (a b : Char) : Prop := 65 ≤ a.toNat ∧ a.toNat ≤ 90 ∧ b.toNat = a.toNat + 32

/-- The same character, or an ASCII letter in the other case. -/
def SameLetter (a b : Char) : Prop := a = b ∨ IsCapitalOf a b ∨ IsCapitalOf b a

/-- The same text but for the case of ASCII letters. -/
def SameLetters (s t : String) : Prop := List.Forall₂ SameLetter s.toList t.toList

theorem isUpper_iff {c : Char} : c.isUpper = true ↔ 65 ≤ c.toNat ∧ c.toNat ≤ 90 := by
  simp [Char.isUpper, UInt32.le_iff_toNat_le]

theorem toNat_toLower {c : Char} (h : c.isUpper = true) : c.toLower.toNat = c.toNat + 32 := by
  have hrange := isUpper_iff.mp h
  rw [Char.toLower_eq_of_isUpper h, Char.toNat_ofNat, if_pos (.inl (by omega))]

theorem isCapitalOf_iff {a b : Char} : IsCapitalOf a b ↔ a.isUpper = true ∧ b = a.toLower := by
  rw [isUpper_iff, IsCapitalOf, ← and_assoc]
  refine and_congr_right fun hrange => ?_
  rw [← toNat_toLower (isUpper_iff.mpr hrange)]
  exact ⟨fun h => Char.toNat_inj.mp h, fun h => h ▸ rfl⟩

/-- Two characters are the same letter if lower case makes them equal. -/
theorem sameLetter_iff {a b : Char} : SameLetter a b ↔ a.toLower = b.toLower := by
  rw [SameLetter, isCapitalOf_iff, isCapitalOf_iff]
  constructor
  · rintro (rfl | ⟨-, rfl⟩ | ⟨-, rfl⟩)
    · rfl
    · exact (Char.toLower_toLower_eq_toLower a).symm
    · exact Char.toLower_toLower_eq_toLower b
  · intro h
    by_cases ha : a.isUpper = true
    · by_cases hb : b.isUpper = true
      · have hnat := congrArg Char.toNat h
        rw [toNat_toLower ha, toNat_toLower hb] at hnat
        exact .inl (Char.toNat_inj.mp (Nat.add_right_cancel hnat))
      · rw [Char.toLower_eq_of_not_isUpper hb] at h
        exact .inr (.inl ⟨ha, h.symm⟩)
    · rw [Char.toLower_eq_of_not_isUpper ha] at h
      by_cases hb : b.isUpper = true
      · exact .inr (.inr ⟨hb, h⟩)
      · rw [Char.toLower_eq_of_not_isUpper hb] at h
        exact .inl h

/-- Two texts have the same letters if lower case makes them equal. -/
theorem sameLetters_iff {s t : String} : SameLetters s t ↔ lowerAscii s = lowerAscii t := by
  have hletter : SameLetter = fun a b => a.toLower = b.toLower := by
    funext a b
    exact propext sameLetter_iff
  rw [SameLetters, hletter, lowerAscii, lowerAscii, String.ofList_inj, ← List.forall₂_eq_eq_eq,
    List.forall₂_map_left_iff, List.forall₂_map_right_iff]

theorem isBlank_toLower (c : Char) : isBlank c.toLower = isBlank c := by
  by_cases h : c.isUpper = true
  · have halpha : c.isAlpha = true := by rw [Char.isAlpha, h, Bool.true_or]
    rw [isBlank_of_isAlpha halpha, isBlank_of_isAlpha ((Char.isAlpha_toLower_eq_isAlpha c).trans halpha)]
  · rw [Char.toLower_eq_of_not_isUpper h]

theorem isBlank_comp_toLower : isBlank ∘ Char.toLower = isBlank := funext isBlank_toLower

theorem lowerAscii_trim (s : String) : lowerAscii (trim s) = trim (lowerAscii s) := by
  simp only [lowerAscii, trim, trimChars_eq, String.toList_ofList, List.rdropWhile, ← List.map_reverse,
    List.dropWhile_map, isBlank_comp_toLower]

theorem lowerAscii_lowerAscii (s : String) : lowerAscii (lowerAscii s) = lowerAscii s := by
  simp only [lowerAscii, String.toList_ofList, List.map_map]
  congr 2
  exact funext Char.toLower_toLower_eq_toLower

end Text

/-! ## Modes -/

namespace Mode
open Text
variable {s t : String} {m : Mode}

/-- How the name of a mode is spelt. -/
def spellings : Mode → List String
  | log => ["log"]
  | stdout => ["stdout"]
  | off => ["off", "none"]

/-- The text names the mode: a spelling of it, in letters of either case, between white space. -/
def Names (s : String) (m : Mode) : Prop :=
  ∃ w₁ c w₂, s = w₁ ++ c ++ w₂ ∧ Blank w₁ ∧ Blank w₂ ∧ ∃ name ∈ m.spellings, SameLetters c name

/-- A spelling is made of small letters. -/
theorem spelling_small :
    ∀ name ∈ m.spellings, (∀ c ∈ name.toList, c.isAlpha = true) ∧ lowerAscii name = name := by
  cases m <;> simp [spellings, lowerAscii]

theorem named?_eq_some {name : String} : named? name = some m ↔ name ∈ m.spellings := by
  simp only [named?]
  split_ifs with hlog hstdout hoff
  · subst hlog
    cases m <;> decide
  · subst hstdout
    cases m <;> decide
  · obtain rfl | rfl := hoff <;> cases m <;> decide
  · cases m <;> simp_all [spellings]

theorem isAlpha_of_sameLetters {c name : String} (h : SameLetters c name) (hname : ∀ x ∈ name.toList, x.isAlpha = true) :
    ∀ x ∈ c.toList, x.isAlpha = true := by
  intro x hx
  have hmem : x.toLower ∈ (lowerAscii name).toList := by
    rw [← sameLetters_iff.mp h, lowerAscii, String.toList_ofList]
    exact List.mem_map_of_mem hx
  rw [lowerAscii, String.toList_ofList, List.mem_map] at hmem
  obtain ⟨y, hy, heq⟩ := hmem
  rw [← Char.isAlpha_toLower_eq_isAlpha, ← heq, Char.isAlpha_toLower_eq_isAlpha]
  exact hname y hy

theorem tight_of_isAlpha {c : String} (h : ∀ x ∈ c.toList, x.isAlpha = true) : Tight c :=
  ⟨fun x hx => isBlank_of_isAlpha (h x (List.mem_of_mem_head? hx)),
    fun x hx => isBlank_of_isAlpha (h x (List.mem_of_mem_getLast? hx))⟩

/-- A text names a mode if its normalised form is a spelling of it. -/
theorem names_iff : Names s m ↔ normalise s ∈ m.spellings := by
  constructor
  · rintro ⟨w₁, c, w₂, rfl, h₁, h₂, name, hname, hc⟩
    obtain ⟨halpha, hsmall⟩ := spelling_small name hname
    have htight := tight_of_isAlpha (isAlpha_of_sameLetters hc halpha)
    rwa [normalise, trim_pad h₁ h₂, trim_eq_self htight, sameLetters_iff.mp hc, hsmall]
  · intro h
    obtain ⟨w₁, w₂, h₁, h₂, heq, -⟩ := exists_trim s
    exact ⟨w₁, trim s, w₂, heq, h₁, h₂, normalise s, h, sameLetters_iff.mpr (lowerAscii_lowerAscii _).symm⟩

theorem parse_eq_ok : parse s = .ok m ↔ Names s m := by
  rw [names_iff, ← named?_eq_some, parse]
  cases named? (normalise s) with
  | none => simp
  | some m' => simp

theorem parse_eq_error (h : ∀ m, ¬ Names s m) : parse s = .error (unknown (normalise s)) := by
  rw [parse]
  cases hm : named? (normalise s) with
  | none => rfl
  | some m => exact absurd (names_iff.mpr (named?_eq_some.mp hm)) (h m)

theorem parse_congr (h : normalise s = normalise t) : parse s = parse t := by
  rw [parse, parse, h]

/-- Normalising a normalised text changes nothing. -/
theorem normalise_normalise (s : String) : normalise (normalise s) = normalise s := by
  obtain ⟨-, -, -, -, -, htight⟩ := exists_trim s
  rw [normalise, normalise, ← lowerAscii_trim, trim_eq_self htight, lowerAscii_lowerAscii]

/-- What there is to know of reading a mode off a text. -/
structure Legible (s : String) : Prop where
  /-- A mode is read off exactly those texts that name it. -/
  accepts : ∀ m, parse s = .ok m ↔ Names s m
  /-- Every other text is refused, and quoted in its normalised form. -/
  refuses : (∀ m, ¬ Names s m) → parse s = .error (.invalidArgument "diagnostics"
    ("unknown diagnostics mode '" ++ normalise s ++ "', expected log, stdout or off"))
  /-- The normalised form is the text without the white space at its ends, in small letters. -/
  normal : ∃ w₁ c w₂, s = w₁ ++ c ++ w₂ ∧ Blank w₁ ∧ Blank w₂ ∧ Tight c ∧ SameLetters c (normalise s) ∧
    ∀ x ∈ (normalise s).toList, x.isUpper = false
  settled : normalise (normalise s) = normalise s
  /-- White space at the ends does not count, for a refusal neither. -/
  padded : ∀ w₁ w₂, Blank w₁ → Blank w₂ → parse (w₁ ++ s ++ w₂) = parse s
  /-- Nor does the case of ASCII letters. -/
  cased : ∀ t, SameLetters s t → parse t = parse s
  /-- Between the white space there are ASCII letters only. -/
  lettered : ∀ m, parse s = .ok m → ∀ x ∈ (trim s).toList, x.isAlpha = true

theorem isUpper_normalise : ∀ x ∈ (normalise s).toList, x.isUpper = false := by
  intro x hx
  rw [normalise, lowerAscii, String.toList_ofList, List.mem_map] at hx
  obtain ⟨y, -, rfl⟩ := hx
  exact Char.isUpper_toLower_eq_false y

theorem isAlpha_trim (h : Names s m) : ∀ x ∈ (trim s).toList, x.isAlpha = true :=
  isAlpha_of_sameLetters (sameLetters_iff.mpr (lowerAscii_lowerAscii _).symm) (spelling_small _ (names_iff.mp h)).1

/-- A text is read as a mode exactly if it names it, and refused otherwise; white space at its ends and the case of
its ASCII letters do not count. -/
theorem legible (s : String) : Legible s where
  accepts _ := parse_eq_ok
  refuses h := parse_eq_error h
  normal := by
    obtain ⟨w₁, w₂, h₁, h₂, heq, htight⟩ := exists_trim s
    exact ⟨w₁, trim s, w₂, heq, h₁, h₂, htight, sameLetters_iff.mpr (lowerAscii_lowerAscii _).symm, isUpper_normalise⟩
  settled := normalise_normalise s
  padded w₁ w₂ h₁ h₂ := parse_congr (by rw [normalise, normalise, trim_pad h₁ h₂])
  cased t h := parse_congr (by rw [normalise, normalise, lowerAscii_trim, lowerAscii_trim, sameLetters_iff.mp h])
  lettered m h := isAlpha_trim (parse_eq_ok.mp h)

example : named? (normalise "\u3000 StdOut\n") = some .stdout := by cbv

-- a long s, which is no ASCII letter
example : named? (normalise "ſtdout") = none := by cbv

end Mode

/-! ## The environment -/

namespace Config

/-- What becomes of the variable: the configuration of a guard that nobody configured, that of the mode that it names,
or a refusal. Bytes that are no text pass for an unset variable. -/
inductive Heeds : Environment → Except Error Config → Prop
  | unset : Heeds none (.ok ⟨"native-guard-reclaim", .log⟩)
  | named {text : String} {m : Mode} : Mode.Names text m →
      Heeds (some text.toUTF8) (.ok ⟨"native-guard-reclaim", .ofMode m⟩)
  | refused {text : String} : (∀ m, ¬ Mode.Names text m) →
      Heeds (some text.toUTF8) (.error (.invalidArgument "diagnostics"
        ("unknown diagnostics mode '" ++ Mode.normalise text ++ "', expected log, stdout or off")))
  | passed {bytes : ByteArray} : (∀ text : String, bytes ≠ text.toUTF8) →
      Heeds (some bytes) (.ok ⟨"native-guard-reclaim", .log⟩)

theorem setting?_toUTF8 (text : String) : setting? (some text.toUTF8) = some text := by
  rw [setting?, Option.bind_some, String.fromUTF8?]
  exact dif_pos text.isValidUTF8

theorem setting?_of_ne {bytes : ByteArray} (h : ∀ text : String, bytes ≠ text.toUTF8) :
    setting? (some bytes) = none := by
  rw [setting?, Option.bind_some, String.fromUTF8?, dif_neg fun hvalid => h (.fromUTF8 bytes hvalid) rfl]

/-- Whatever the variable holds, if anything: a text in it is honoured or refused, and nothing but a text is. -/
theorem environment_heeded (env : Environment) : Heeds env (fromEnvironment env) := by
  cases env with
  | none => exact .unset
  | some bytes =>
    by_cases htext : ∃ text : String, bytes = text.toUTF8
    · obtain ⟨text, rfl⟩ := htext
      rw [fromEnvironment, setting?_toUTF8]
      by_cases hnames : ∃ m, Mode.Names text m
      · obtain ⟨m, hm⟩ := hnames
        simp only [Mode.parse_eq_ok.mpr hm]
        exact .named hm
      · simp only [Mode.parse_eq_error (not_exists.mp hnames)]
        exact .refused (not_exists.mp hnames)
    · have hne := not_exists.mp htext
      rw [fromEnvironment, setting?_of_ne hne]
      exact .passed hne

example : fromEnvironment (some ⟨#[0xFF]⟩) = .ok .standard := by rfl

end Config

end Reclaim
