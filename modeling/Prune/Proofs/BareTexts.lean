import Mathlib.Data.List.TakeWhile
import Prune.Proofs.Surface

/-!
# Texts without the words that export them

A declaration that is put out for another module loses `export` and `default`.
The words are looked for in the text of its item, not among its tokens:
`withoutExport` takes a word away if a blank follows it, and the blanks with it.

Between the words and the declaration there may be any `Trivia`, or nothing at
all. `ExportWords` is the front of an item, word by word, and `ExportWords.left`
says what is left of it (`withoutExport_text`). A word without a blank behind it
stays. A comment stays as well, and hides what comes after it: no `default` is
seen behind a comment. So the bare declaration is what is left exactly if there
are blanks behind each of the words, and nothing but blanks
(`ExportWords.left_eq_nil_iff`).
-/

namespace Prune

open Script

/-! ## Between two tokens -/

/-- What may stand between two tokens: space, line ends and comments. -/
inductive Trivia : List Char → Prop where
  | nil : Trivia []
  | blank {c : Char} {rest : List Char}
      (blank : isSpace c = true ∨ isLineEnd c = true)
      (trivia : Trivia rest) : Trivia (c :: rest)
  | line {body rest : List Char} {c : Char}
      (inside : ∀ other ∈ body, isLineEnd other = false)
      (ends : isLineEnd c = true) (trivia : Trivia rest) :
      Trivia ('/' :: '/' :: (body ++ c :: rest))
  | block {comment body rest : List Char}
      (closed : Scanner.closeComment [] comment = some (body, rest))
      (trivia : Trivia rest) :
      Trivia ('/' :: '*' :: comment)

/-- Whether a text begins with a blank. -/
def beginsBlank (text : List Char) : Bool := text.head?.any Text.isBlank

theorem dropBlanks_cons (c : Char) (rest : List Char) :
    dropBlanks (c :: rest) = if Text.isBlank c then dropBlanks rest
      else c :: rest :=
  List.dropWhile_cons

theorem dropBlanks_append (gap : List Char) {rest : List Char}
    (h : beginsBlank rest = false) :
    dropBlanks (gap ++ rest) = dropBlanks gap ++ rest := by
  induction gap with
  | nil =>
      cases rest with
      | nil => rfl
      | cons c rest =>
          have hc : Text.isBlank c = false := h
          rw [List.nil_append, dropBlanks_cons, hc]
          rfl
  | cons c gap ih =>
      rw [List.cons_append, dropBlanks_cons, dropBlanks_cons, ih]
      split <;> rfl

theorem Trivia.dropBlanks {gap : List Char} (h : Trivia gap) :
    Trivia (Prune.dropBlanks gap) := by
  induction h with
  | nil => exact .nil
  | blank blank trivia ih =>
      rw [dropBlanks_cons]
      split
      · exact ih
      · exact .blank blank trivia
  | line inside ends trivia => exact .line inside ends trivia
  | block closed trivia => exact .block closed trivia

/-- No word that exports a declaration begins where a gap does. -/
theorem Trivia.not_default {gap : List Char} (h : Trivia gap) (hne : gap ≠ [])
    (rest : List Char) :
    ¬ "default".toList <+: gap ++ rest := by
  rintro ⟨after, hafter⟩
  cases h with
  | nil => exact hne rfl
  | blank blank trivia =>
      obtain rfl := (List.cons.inj hafter).1
      revert blank
      decide
  | line inside ends trivia => exact absurd (List.cons.inj hafter).1 (by decide)
  | block closed trivia => exact absurd (List.cons.inj hafter).1 (by decide)

/-! ## A word and the gap behind it -/

/-- Whether there are blanks in a gap, and nothing else. -/
def IsBlankGap (gap : List Char) : Prop :=
  gap ≠ [] ∧ gap.all Text.isBlank = true

/-- What is left of a word and the gap behind it. -/
def leftOf (word : String) (gap : List Char) : List Char :=
  if beginsBlank gap then dropBlanks gap else word.toList ++ gap

theorem afterWord?_append (word : String) (gap : List Char) {rest : List Char}
    (h : beginsBlank rest = false) :
    afterWord? word (word.toList ++ (gap ++ rest)) =
      if beginsBlank gap then some (dropBlanks gap ++ rest) else none := by
  have hword : word.toList.isPrefixOf (word.toList ++ (gap ++ rest)) = true :=
    List.isPrefixOf_iff_prefix.mpr (List.prefix_append _ _)
  rw [afterWord?, if_pos hword, ← String.length_toList, List.drop_left]
  cases gap with
  | nil =>
      cases rest with
      | nil => rfl
      | cons c rest =>
          have hc : Text.isBlank c = false := h
          rw [List.nil_append]
          dsimp only
          rw [hc]
          rfl
  | cons c gap =>
      rw [List.cons_append]
      dsimp only
      by_cases hblank : Text.isBlank c = true
      · have hbegins : beginsBlank (c :: gap) = true := hblank
        rw [if_pos hblank, if_pos hbegins, dropBlanks_append gap h,
          dropBlanks_cons, if_pos hblank]
      · have hbegins : ¬ beginsBlank (c :: gap) = true := hblank
        rw [if_neg hblank, if_neg hbegins]

/-- Taking a word away that stands before a gap. -/
theorem afterWord?_getD (word : String) (gap : List Char) {rest : List Char}
    (h : beginsBlank rest = false) :
    (afterWord? word (word.toList ++ (gap ++ rest))).getD
      (word.toList ++ (gap ++ rest)) =
      leftOf word gap ++ rest := by
  rw [afterWord?_append word gap h, leftOf]
  split
  · rfl
  · rw [Option.getD_none, List.append_assoc]

theorem leftOf_eq_nil_iff {word : String} (hword : word.toList ≠ [])
    {gap : List Char} :
    leftOf word gap = [] ↔ IsBlankGap gap := by
  rw [leftOf, IsBlankGap]
  cases gap with
  | nil =>
      refine ⟨fun h => ?_, fun h => absurd rfl h.1⟩
      exact absurd (List.append_eq_nil_iff.mp h).1 hword
  | cons c gap =>
      by_cases hblank : Text.isBlank c = true
      · have hbegins : beginsBlank (c :: gap) = true := hblank
        rw [if_pos hbegins, dropBlanks, List.dropWhile_eq_nil_iff,
          ← List.all_eq_true]
        exact ⟨fun h => ⟨List.cons_ne_nil _ _, h⟩, And.right⟩
      · have hbegins : ¬ beginsBlank (c :: gap) = true := hblank
        rw [if_neg hbegins]
        refine ⟨fun h => absurd (List.append_eq_nil_iff.mp h).1 hword,
          fun h => ?_⟩
        exact absurd (List.all_eq_true.mp h.2 c List.mem_cons_self) hblank

/-! ## The words that export a declaration -/

/-- The words that export a declaration: `export`, and `default` if it has that
word, each with the gap behind it. -/
structure ExportWords where
  gap : List Char
  trivia : Trivia gap
  defaultGap : Option (List Char)
  defaultTrivia : ∀ after ∈ defaultGap, Trivia after

namespace ExportWords

variable {words : ExportWords} {bare : List Char}

def text (words : ExportWords) : List Char :=
  "export".toList ++
    (words.gap ++ words.defaultGap.elim [] fun after =>
      "default".toList ++ after)

theorem text_append (words : ExportWords) (bare : List Char) :
    words.text ++ bare = "export".toList ++
      (words.gap ++
        ((words.defaultGap.elim [] fun after => "default".toList ++ after) ++
          bare)) := by
  unfold text
  rw [List.append_assoc, List.append_assoc]

/-- What is left of the words. The second is only seen if nothing is left of the
first. -/
def left (words : ExportWords) : List Char :=
  match words.defaultGap with
  | none => leftOf "export" words.gap
  | some after =>
      if leftOf "export" words.gap = [] then leftOf "default" after
      else leftOf "export" words.gap ++ ("default".toList ++ after)

/-- A declaration that comes behind the words begins with a token, which is none
of the words. -/
structure Precedes (words : ExportWords) (bare : List Char) : Prop where
  token : beginsBlank bare = false
  notDefault : words.defaultGap = none → ¬ "default".toList <+: bare

theorem afterDefault_eq_none {rest : List Char}
    (h : ¬ "default".toList <+: rest) :
    afterWord? "default" rest = none :=
  if_neg fun hword => h (List.isPrefixOf_iff_prefix.mp hword)

/-- Taking `export` away, and `default` after it, from a text that begins with
`export` and a gap. -/
theorem withoutExport_append (words : ExportWords) {rest : List Char}
    (h : beginsBlank rest = false) :
    withoutExport ("export".toList ++ (words.gap ++ rest)) =
      if leftOf "export" words.gap = [] then
        (afterWord? "default" rest).getD rest
      else leftOf "export" words.gap ++ rest := by
  rw [withoutExport, afterWord?_append "export" words.gap h, leftOf]
  by_cases hbegins : beginsBlank words.gap = true
  · rw [if_pos hbegins, if_pos hbegins]
    by_cases hnone : dropBlanks words.gap = []
    · rw [if_pos hnone, hnone, List.nil_append]
    · -- What is left of the gap begins with a comment, or with a space that is
      -- no blank.
      dsimp only
      rw [if_neg hnone,
        afterDefault_eq_none (words.trivia.dropBlanks.not_default hnone rest)]
      rfl
  · rw [if_neg hbegins, if_neg hbegins, if_neg (by simp), List.append_assoc]

theorem withoutExport_text (h : words.Precedes bare) :
    withoutExport (words.text ++ bare) = words.left ++ bare := by
  rw [text_append, left]
  cases hdefault : words.defaultGap with
  | none =>
      dsimp only [Option.elim_none]
      rw [List.nil_append, words.withoutExport_append h.token,
        afterDefault_eq_none (h.notDefault hdefault)]
      split
      · next hnone => rw [hnone]; rfl
      · rfl
  | some after =>
      dsimp only [Option.elim_some]
      have htoken : beginsBlank ("default".toList ++ (after ++ bare)) = false :=
        rfl
      rw [List.append_assoc, words.withoutExport_append htoken,
        afterWord?_getD "default" after h.token]
      split
      · rfl
      · rw [List.append_assoc, List.append_assoc]

/-- Nothing is left of the words exactly if there are blanks behind each of
them, and nothing else. -/
theorem left_eq_nil_iff (words : ExportWords) :
    words.left = [] ↔ IsBlankGap words.gap ∧ ∀ after ∈ words.defaultGap,
      IsBlankGap after := by
  have hexport : leftOf "export" words.gap = [] ↔ IsBlankGap words.gap :=
    leftOf_eq_nil_iff (by decide)
  rw [left, ← hexport]
  cases words.defaultGap with
  | none => simp
  | some after =>
      have hdefault : leftOf "default" after = [] ↔ IsBlankGap after :=
        leftOf_eq_nil_iff (by decide)
      by_cases hnone : leftOf "export" words.gap = []
      · simp [hnone, hdefault]
      · simp [hnone]

end ExportWords

/-! ## Modules -/

theorem Dissection.plainText_eq (subject : Subject) {lo exportLo : Nat}
    (h : lo ≤ exportLo) (hi : Nat) :
    plainText subject lo exportLo hi = String.ofList
      (slice subject.file.text lo exportLo ++
        withoutExport (slice subject.file.text exportLo hi)) := by
  rw [plainText]
  split
  · rfl
  · next hlo =>
      obtain rfl : lo = exportLo := by omega
      have hnone : slice subject.file.text lo lo = [] := by
        rw [slice, Nat.sub_self, List.take_zero]
      rw [hnone, List.nil_append]

theorem Script.TopItem.textFrom_le (item : TopItem) :
    item.textFrom ≤ item.span.lo := by
  rw [textFrom]
  split
  · rw [Dissection.itemStart]
    split
    · exact Nat.le_refl _
    · exact Nat.min_le_right _ _
  · exact Nat.le_refl _

/-- An item that begins with the words that export it, after its decorators,
makes a declaration whose text for other modules is the decorators, what is left
of the words, and the bare declaration. So it is the decorators and the bare
declaration exactly if there are blanks behind each of the words, and nothing
but blanks. -/
theorem Module.plainText_ofSource {subject : Subject} {isEntry : Bool}
    {module : Module} (h : Module.ofSource subject isEntry = .ok module)
    {item : TopItem} (hitem : item ∈ subject.file.items)
    (hexports : item.exports = true) {words : ExportWords} {bare : List Char}
    (hbare : words.Precedes bare)
    (htext : slice subject.file.text item.span.lo item.span.hi =
      words.text ++ bare) :
    ∃ declaration ∈ module.declarations.values,
      subject.nameOf? item.stmt = some declaration.name ∧
      declaration.plainText.toList =
        slice subject.file.text item.textFrom item.span.lo ++
          (words.left ++ bare) ∧
      (declaration.plainText.toList =
        slice subject.file.text item.textFrom item.span.lo ++ bare ↔
        IsBlankGap words.gap ∧ ∀ after ∈ words.defaultGap,
          IsBlankGap after) := by
  obtain ⟨declaration, hdeclaration, hcuts, -⟩ :=
    exists_of_mem_left (cut_ofSource h).1
      (List.mem_filter.mpr ⟨hitem, TopItem.declares_of_exports hexports⟩)
  have hplain : declaration.plainText.toList =
      slice subject.file.text item.textFrom item.span.lo ++
        (words.left ++ bare) := by
    rw [hcuts.plainText, Dissection.plainText_eq subject item.textFrom_le,
      String.toList_ofList, htext, ExportWords.withoutExport_text hbare]
  refine ⟨declaration, hdeclaration, hcuts.name, hplain, ?_⟩
  rw [hplain, List.append_cancel_left_eq, ← words.left_eq_nil_iff]
  exact ⟨fun hsame =>
      List.append_cancel_right (hsame.trans (List.nil_append bare).symm),
    fun hnone => by rw [hnone, List.nil_append]⟩

/-- A class whose decorator comes before the words that export it. -/
def spacedText : String := "@d export \n default class C\x7b\x7d"

def spacedWords : ExportWords where
  gap := " \n ".toList
  trivia := .blank (by decide) (.blank (by decide) (.blank (by decide) .nil))
  defaultGap := some [' ']
  defaultTrivia after hafter := by
    cases hafter
    exact .blank (by decide) .nil

theorem read_spaced :
    (SourceFile.read ⟨false, true⟩ spacedText.toList).toOption.bind (fun file =>
      (Module.ofSource ⟨.default, "/a.ts", file⟩ true).toOption.map fun _ =>
        file.items.map fun item =>
          (item.exports, slice file.text item.textFrom item.span.lo,
            slice file.text item.span.lo item.span.hi)) =
      some
        [(true, "@d ".toList,
          spacedWords.text ++ "class C\x7b\x7d".toList)] := by
  decide +kernel

theorem Module.plainText_ofSource_spaced :
    ∃ file module, SourceFile.read ⟨false, true⟩ spacedText.toList = .ok file ∧
      Module.ofSource ⟨.default, "/a.ts", file⟩ true = .ok module ∧
      ∃ declaration ∈ module.declarations.values,
        declaration.plainText = "@d class C\x7b\x7d" := by
  obtain ⟨file, hfile, hrest⟩ := Option.bind_eq_some_iff.mp read_spaced
  obtain ⟨module, hmodule, hitems⟩ := Option.map_eq_some_iff.mp hrest
  obtain ⟨item, hitem, hfacts⟩ := List.map_eq_singleton_iff.mp hitems
  obtain ⟨hexports, htexts⟩ := Prod.mk.inj hfacts
  obtain ⟨hdecorators, htext⟩ := Prod.mk.inj htexts
  have hmem : item ∈ file.items := by
    rw [hitem]
    exact List.mem_cons_self
  have hbare : spacedWords.Precedes "class C\x7b\x7d".toList :=
    ⟨by decide, fun hnone => by cases hnone⟩
  obtain ⟨declaration, hdeclaration, -, -, hplain⟩ :=
    Module.plainText_ofSource (ok_of_toOption hmodule) hmem hexports hbare htext
  refine ⟨file, module, ok_of_toOption hfile, ok_of_toOption hmodule,
    declaration, hdeclaration, ?_⟩
  rw [← String.toList_inj, hplain.mpr ⟨?_, ?_⟩, hdecorators]
  · rfl
  · exact ⟨by decide, by decide⟩
  · rintro after ⟨rfl⟩
    exact ⟨by decide, by decide⟩

/-- A comment behind `export`, and a bracket behind `default`: the words
stay. -/
theorem Module.kept_words : ∃ module,
    Module.ofText .default "/a.ts" "export/**/let f=eval;export default[f]" true
      0 = .ok module ∧
      module.declarations.values.map Declaration.plainText =
        ["export/**/let f=eval;", "default[f]"] := by
  have hkept :
      (Module.ofText .default "/a.ts"
        "export/**/let f=eval;export default[f]" true
        0).toOption.map (fun module =>
          module.declarations.values.map Declaration.plainText) =
        some ["export/**/let f=eval;", "default[f]"] := by
    decide +kernel
  obtain ⟨module, hmodule, htexts⟩ := Option.map_eq_some_iff.mp hkept
  exact ⟨module, ok_of_toOption hmodule, htexts⟩

end Prune
