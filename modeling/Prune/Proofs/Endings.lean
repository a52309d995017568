import Prune.Proofs.Exchange

/-!
# The ending of a source file

Resolving adds the configured ending to a path as text, and asks as text whether
it is there already. Whether a path names a source file is asked of the last
segment instead: of what follows the last dot in it, if something stands before
that dot. This file compares the two.

Everything happens behind the last slash. `lastPiece` is the text there; joining
and cleaning leave it alone if it is a name (`lastPiece_joinChars`,
`normalizeChars_append`), and an ending without slashes is the ending of a path
if it is the ending of this text (`suffix_glue_iff`). So a name may be spelled
with the ending or without it, and one file has one path (`resolve_spelling`).

Every resolved path ends in the ending, but not every one is a source file: the
last dot is the dot of the ending only if the extension has no dot itself, and
nothing stands before it where a name is the ending alone
(`isSourceFile_resolve_iff`).
-/

namespace Prune.Path

/-! ## What follows the last slash -/

/-- What follows the last slash of a path. -/
def lastPiece (path : List Char) : List Char := (pieces path).getLastD []

theorem pieces_append_slash (before path : List Char) :
    pieces (before ++ '/' :: path) = pieces before ++ pieces path := by
  induction before with
  | nil => exact pieces_slash path
  | cons c before ih =>
      rw [List.cons_append, pieces, pieces, ih]
      cases hpieces : pieces before with
      | nil => exact absurd hpieces (pieces_ne_nil before)
      | cons first others =>
          dsimp only [List.cons_append]
          split <;> rfl

theorem glue_pieces (path : List Char) : glue (pieces path) = path := by
  induction path with
  | nil => rfl
  | cons c rest ih =>
      rw [pieces]
      cases hpieces : pieces rest with
      | nil => exact absurd hpieces (pieces_ne_nil rest)
      | cons first others =>
          rw [hpieces] at ih
          dsimp only
          split
          · next hc =>
              rw [glue_cons [] (List.cons_ne_nil _ _), ih, hc, List.nil_append]
          · cases others with
            | nil => rw [← ih, glue, glue]
            | cons next others =>
                have hnext : next :: others ≠ [] := List.cons_ne_nil _ _
                rw [← ih, glue_cons _ hnext, glue_cons _ hnext,
                  List.cons_append]

theorem pieces_eq (path : List Char) :
    pieces path = (pieces path).dropLast ++ [lastPiece path] := by
  have hlast := List.dropLast_append_getLast (pieces_ne_nil path)
  rw [lastPiece, List.getLastD_eq_getLast?,
    List.getLast?_eq_some_getLast (pieces_ne_nil path)]
  exact hlast.symm

theorem noSlash_lastPiece (path : List Char) : '/' ∉ lastPiece path := by
  have hmem : lastPiece path ∈ (pieces path).dropLast ++ [lastPiece path] :=
    List.mem_append_right _ List.mem_cons_self
  rw [← pieces_eq] at hmem
  exact noSlash_of_mem_pieces hmem

theorem glue_concat {before : List (List Char)} (h : before ≠ [])
    (piece : List Char) :
    glue (before ++ [piece]) = glue before ++ '/' :: piece := by
  induction before with
  | nil => exact absurd rfl h
  | cons first before ih =>
      by_cases hbefore : before = []
      · rw [hbefore]
        rfl
      · rw [List.cons_append, glue_cons first (by simp), ih hbefore,
          glue_cons first hbefore, List.append_assoc, List.cons_append]

theorem lastPiece_append_slash (before path : List Char) :
    lastPiece (before ++ '/' :: path) = lastPiece path := by
  rw [lastPiece, pieces_append_slash, pieces_eq path, ← List.append_assoc,
    List.getLastD_concat]

theorem lastPiece_of_noSlash {piece : List Char} (h : '/' ∉ piece) :
    lastPiece piece = piece := by
  rw [lastPiece, pieces_of_noSlash h]
  rfl

theorem lastPiece_glue {piece : List Char} (h : '/' ∉ piece)
    (before : List (List Char)) :
    lastPiece (glue (before ++ [piece])) = piece := by
  by_cases hbefore : before = []
  · rw [hbefore]
    exact lastPiece_of_noSlash h
  · rw [glue_concat hbefore, lastPiece_append_slash, lastPiece_of_noSlash h]

/-- Text that is added to a path is added to what follows its last slash. -/
theorem pieces_append_text (path : List Char) {text : List Char}
    (h : '/' ∉ text) :
    pieces (path ++ text) =
      (pieces path).dropLast ++ [lastPiece path ++ text] := by
  have hpath : path ++ text =
      glue ((pieces path).dropLast ++ [lastPiece path ++ text]) := by
    rw [← glue_append, ← pieces_eq, glue_pieces]
  have hslash : ∀ piece ∈ (pieces path).dropLast ++ [lastPiece path ++ text],
      '/' ∉ piece := by
    intro piece hpiece
    rcases List.mem_append.mp hpiece with hbefore | hlast
    · exact noSlash_of_mem_pieces (List.dropLast_subset _ hbefore)
    · rw [List.mem_singleton.mp hlast, List.mem_append, not_or]
      exact ⟨noSlash_lastPiece path, h⟩
  rw [hpath]
  cases hpieces : (pieces path).dropLast ++ [lastPiece path ++ text] with
  | nil => exact absurd hpieces (by simp)
  | cons piece rest =>
      rw [hpieces] at hslash
      exact pieces_glue hslash

theorem lastPiece_append_text (path : List Char) {text : List Char}
    (h : '/' ∉ text) :
    lastPiece (path ++ text) = lastPiece path ++ text := by
  rw [lastPiece, pieces_append_text path h, List.getLastD_concat]

/-- An ending without slashes is the ending of what follows the last slash. -/
theorem suffix_glue_iff {ending : List Char} (h : '/' ∉ ending)
    (before : List (List Char)) (piece : List Char) :
    ending <:+ glue (before ++ [piece]) ↔ ending <:+ piece := by
  by_cases hbefore : before = []
  · rw [hbefore]
    rfl
  · rw [glue_concat hbefore]
    constructor
    · intro hsuffix
      have hpiece : piece <:+ glue before ++ '/' :: piece :=
        (List.suffix_cons _ _).trans (List.suffix_append _ _)
      by_cases hlength : ending.length ≤ piece.length
      · exact List.suffix_of_suffix_length_le hsuffix hpiece hlength
      · -- An ending that is longer has the slash in it.
        have hslash : '/' :: piece <:+ ending := by
          refine List.suffix_of_suffix_length_le (List.suffix_append _ _)
            hsuffix ?_
          rw [List.length_cons]
          omega
        exact absurd (hslash.subset List.mem_cons_self) h
    · intro hsuffix
      exact hsuffix.trans
        ((List.suffix_cons _ _).trans (List.suffix_append _ _))

theorem suffix_lastPiece_iff {ending : List Char} (h : '/' ∉ ending)
    (path : List Char) :
    ending <:+ path ↔ ending <:+ lastPiece path := by
  conv => lhs; rw [← glue_pieces path, pieces_eq path]
  exact suffix_glue_iff h _ _

/-! ## Joining -/

/-- What is joined to a directory follows a slash of it, or stands alone. -/
theorem exists_joinChars (directory : List Char) :
    ∃ before, (before = [] ∨ ∃ path, before = path ++ ['/']) ∧
      ∀ path, isAbsolute path = false →
        joinChars directory path = before ++ path := by
  by_cases hnone : directory = []
  · refine ⟨[], Or.inl rfl, fun path hpath => ?_⟩
    rw [joinChars, hpath, if_neg Bool.false_ne_true, if_pos hnone,
      List.nil_append]
  · by_cases hslash : directory.getLast? = some '/'
    · obtain ⟨path, hdirectory⟩ := List.getLast?_eq_some_iff.mp hslash
      refine ⟨directory, Or.inr ⟨path, hdirectory⟩, fun path hpath => ?_⟩
      rw [joinChars, hpath, if_neg Bool.false_ne_true, if_neg hnone,
        if_pos hslash]
    · refine ⟨directory ++ ['/'], Or.inr ⟨directory, rfl⟩, fun path hpath => ?_⟩
      rw [joinChars, hpath, if_neg Bool.false_ne_true, if_neg hnone,
        if_neg hslash, List.append_assoc]
      rfl

theorem lastPiece_joinChars (directory : List Char) {path : List Char}
    (h : isAbsolute path = false) :
    lastPiece (joinChars directory path) = lastPiece path := by
  obtain ⟨before, hbefore | ⟨directory, hbefore⟩, hjoin⟩ :=
    exists_joinChars directory
  · rw [hjoin path h, hbefore, List.nil_append]
  · rw [hjoin path h, hbefore, List.append_assoc]
    exact lastPiece_append_slash directory path

theorem isAbsolute_append {path : List Char} (h : path ≠ [])
    (text : List Char) :
    isAbsolute (path ++ text) = isAbsolute path := by
  cases path with
  | nil => exact absurd rfl h
  | cons c rest => rfl

theorem joinChars_append (directory : List Char) {path : List Char}
    (h : isAbsolute path = false) (hne : path ≠ []) (text : List Char) :
    joinChars directory (path ++ text) = joinChars directory path ++ text := by
  obtain ⟨before, -, hjoin⟩ := exists_joinChars directory
  have htext : isAbsolute (path ++ text) = false :=
    (isAbsolute_append hne text).trans h
  rw [hjoin path h, hjoin _ htext, List.append_assoc]

/-! ## Cleaning -/

/-- The segments before the last piece of a path. -/
def segmentsBefore (path : List Char) : List Segment :=
  (if isAbsolute path then [.root] else []) ++
    ((pieces path).dropLast.filter fun piece => !isSilent piece).map
      pieceSegment

theorem segments_eq (path : List Char) : segments path = segmentsBefore path ++
    ([lastPiece path].filter fun piece => !isSilent piece).map
      pieceSegment := by
  have hnamed : ((pieces path).filter fun piece => !isSilent piece).map
      pieceSegment =
      ((pieces path).dropLast.filter fun piece => !isSilent piece).map
        pieceSegment ++
        ([lastPiece path].filter fun piece => !isSilent piece).map
          pieceSegment := by
    rw [← List.map_append, ← List.filter_append, ← pieces_eq]
  rw [segments, segmentsBefore, hnamed]
  split <;> rfl

theorem segments_of_proper {path : List Char} (h : Proper (lastPiece path)) :
    segments path = segmentsBefore path ++ [.name (lastPiece path)] := by
  rw [segments_eq, List.filter_cons_of_pos (by rw [h.notSilent]; rfl),
    List.filter_nil, List.map_singleton, pieceSegment, if_neg h.notUp]

theorem Proper.ne_nil {path : List Char} (h : Proper (lastPiece path)) :
    path ≠ [] := by
  rintro rfl
  exact absurd h.notSilent (by decide)

theorem cleanSegments_append_name (before : List Segment) (text : List Char) :
    cleanSegments (before ++ [.name text]) =
      cleanSegments before ++ [.name text] := by
  rw [cleanSegments, List.foldl_append, List.foldl_cons, List.foldl_nil,
    cleanSegments]
  cases before.foldl push [] with
  | nil => rfl
  | cons segment rest => exact List.reverse_cons

/-- A name behind the last slash stays where it is. -/
theorem normalizeChars_of_proper {path : List Char}
    (h : Proper (lastPiece path)) :
    normalizeChars path =
      glue
        ((cleanSegments (segmentsBefore path)).map segmentText ++
          [lastPiece path]) := by
  rw [normalizeChars, segments_of_proper h, cleanSegments_append_name,
    render_append _ Segment.noConfusion]
  rfl

/-- Cleaning and adding to a name can be exchanged, as long as it is a name
then. -/
theorem normalizeChars_append {path text : List Char}
    (h : Proper (lastPiece path)) (htext : '/' ∉ text)
    (hboth : Proper (lastPiece path ++ text)) :
    normalizeChars (path ++ text) = normalizeChars path ++ text := by
  have hlast := lastPiece_append_text path htext
  have hbefore : segmentsBefore (path ++ text) = segmentsBefore path := by
    rw [segmentsBefore, segmentsBefore, pieces_append_text path htext,
      List.dropLast_concat, isAbsolute_append h.ne_nil]
  rw [normalizeChars_of_proper (hlast ▸ hboth), normalizeChars_of_proper h,
    hbefore, hlast, glue_append]

end Prune.Path

namespace Prune.Specifier

open Prune.Path

/-! ## One path for every spelling -/

/-- The clean path that a specifier leads to, before the ending is added. -/
def place (importer specifier : String) : String :=
  Path.normalize (Path.join ((Path.parent importer).getD "") specifier)

theorem toList_place (importer specifier : String) :
    (place importer specifier).toList =
      normalizeChars
        (joinChars ((parentChars importer.toList).getD [])
          specifier.toList) := by
  rw [place, Path.normalize, String.toList_ofList, Path.join,
    String.toList_ofList, Path.parent]
  cases parentChars importer.toList with
  | none => rfl
  | some directory =>
      rw [Option.map_some, Option.getD_some, Option.getD_some,
        String.toList_ofList]

theorem resolve_eq {specifier : String} (h : isRelative specifier = true)
    (config : Config) (importer : String) :
    resolve config importer specifier =
      .ok
        (String.ofList
          (addEnding config (place importer specifier).toList)) := by
  rw [resolve, if_pos h, toList_place]

theorem suffix_addEnding (config : Config) (path : List Char) :
    ending config <:+ addEnding config path := by
  rw [addEnding]
  split
  · next h => exact List.isSuffixOf_iff_suffix.mp h
  · exact List.suffix_append _ _

theorem addEnding_of_suffix {config : Config} {path : List Char}
    (h : ending config <:+ path) :
    addEnding config path = path :=
  if_pos (List.isSuffixOf_iff_suffix.mpr h)

theorem addEnding_of_not_suffix {config : Config} {path : List Char}
    (h : ¬ ending config <:+ path) :
    addEnding config path = path ++ ending config :=
  if_neg fun hsuffix => h (List.isSuffixOf_iff_suffix.mp hsuffix)

/-- The ending tells two paths apart, unless one of them is the other without
it. -/
theorem addEnding_eq_iff {config : Config} {path other : List Char} :
    addEnding config path = addEnding config other ↔ path = other ∨
      (¬ ending config <:+ path ∧ other = path ++ ending config) ∨
      (¬ ending config <:+ other ∧ path = other ++ ending config) := by
  have hadded : ∀ {path : List Char}, ending config <:+ path ++ ending config :=
    List.suffix_append _ _
  constructor
  · intro h
    by_cases hpath : ending config <:+ path
    · by_cases hother : ending config <:+ other
      · rw [addEnding_of_suffix hpath, addEnding_of_suffix hother] at h
        exact Or.inl h
      · rw [addEnding_of_suffix hpath, addEnding_of_not_suffix hother] at h
        exact Or.inr (Or.inr ⟨hother, h⟩)
    · by_cases hother : ending config <:+ other
      · rw [addEnding_of_not_suffix hpath, addEnding_of_suffix hother] at h
        exact Or.inr (Or.inl ⟨hpath, h.symm⟩)
      · rw [addEnding_of_not_suffix hpath, addEnding_of_not_suffix hother] at h
        exact Or.inl (List.append_cancel_right h)
  · rintro (rfl | ⟨hpath, rfl⟩ | ⟨hother, rfl⟩)
    · rfl
    · rw [addEnding_of_not_suffix hpath, addEnding_of_suffix hadded]
    · rw [addEnding_of_not_suffix hother, addEnding_of_suffix hadded]

theorem isRelative_iff {specifier : String} : isRelative specifier = true ↔
    specifier.toList = ['.'] ∨ specifier.toList = ['.', '.'] ∨
      ['.', '/'] <+: specifier.toList ∨
      ['.', '.', '/'] <+: specifier.toList := by
  rw [isRelative, Bool.or_eq_true, Bool.or_eq_true, Bool.or_eq_true,
    decide_eq_true_iff, decide_eq_true_iff, List.isPrefixOf_iff_prefix,
    List.isPrefixOf_iff_prefix, or_assoc, or_assoc]

theorem isAbsolute_of_isRelative {specifier : String}
    (h : isRelative specifier = true) :
    isAbsolute specifier.toList = false := by
  rcases isRelative_iff.mp h with h | h | ⟨rest, h⟩ | ⟨rest, h⟩
  · rw [h]
    rfl
  · rw [h]
    rfl
  · rw [← h]
    rfl
  · rw [← h]
    rfl

/-- A specifier that ends in a name stays relative whatever is added to it. -/
theorem isRelative_append {specifier : String} (h : isRelative specifier = true)
    (hproper : Proper (lastPiece specifier.toList)) (text : String) :
    isRelative (specifier ++ text) = true := by
  rw [isRelative_iff, String.toList_append]
  rcases isRelative_iff.mp h with hdot | hdots | hhere | habove
  · rw [hdot] at hproper
    exact absurd hproper.notSilent (by decide)
  · rw [hdots] at hproper
    exact absurd rfl hproper.notUp
  · exact Or.inr (Or.inr (Or.inl (hhere.trans (List.prefix_append _ _))))
  · exact Or.inr (Or.inr (Or.inr (habove.trans (List.prefix_append _ _))))

variable {config : Config}

theorem noSlash_ending (h : '/' ∉ config.extension.toList) :
    '/' ∉ ending config := by
  rw [ending, List.mem_cons, not_or]
  exact ⟨by decide, h⟩

/-- A name leads to the same path with the ending and without it. -/
theorem resolve_append_ending (h : IsExtension config.extension.toList)
    {specifier : String} (hrelative : isRelative specifier = true)
    (hproper : Proper (lastPiece specifier.toList))
    (hbare : ¬ ending config <:+ specifier.toList) (importer : String) :
    resolve config importer (specifier ++ "." ++ config.extension) =
      resolve config importer specifier := by
  have hslash := noSlash_ending h.noSlash
  have htext : (specifier ++ "." ++ config.extension).toList =
      specifier.toList ++ ending config := by
    rw [String.toList_append, String.toList_append, List.append_assoc]
    rfl
  have hrelativeText :
      isRelative (specifier ++ "." ++ config.extension) = true := by
    rw [String.append_assoc]
    exact isRelative_append hrelative hproper _
  rw [resolve_eq hrelative, resolve_eq hrelativeText, toList_place,
    toList_place, htext]
  -- What is joined ends in the same name as the specifier, and so does the
  -- clean path.
  generalize (parentChars importer.toList).getD [] = directory
  have hjoined : lastPiece (joinChars directory specifier.toList) =
      lastPiece specifier.toList :=
    lastPiece_joinChars directory (isAbsolute_of_isRelative hrelative)
  have hname : Proper (lastPiece (joinChars directory specifier.toList)) :=
    hjoined ▸ hproper
  have hboth : Proper
      (lastPiece (joinChars directory specifier.toList) ++ ending config) :=
    h.proper (noSlash_lastPiece _)
  have hnone : ¬ ending config <:+
      normalizeChars (joinChars directory specifier.toList) := by
    rw [normalizeChars_of_proper hname, suffix_glue_iff hslash, hjoined,
      ← suffix_lastPiece_iff hslash]
    exact hbare
  rw [joinChars_append directory (isAbsolute_of_isRelative hrelative)
      hproper.ne_nil,
    normalizeChars_append hname hslash hboth,
    addEnding_of_suffix (List.suffix_append _ _), addEnding_of_not_suffix hnone]

theorem resolve_eq_iff {specifier other : String}
    (h : isRelative specifier = true) (hother : isRelative other = true)
    (importer otherImporter : String) :
    resolve config importer specifier = resolve config otherImporter other ↔
      place importer specifier = place otherImporter other ∨
      (¬ ending config <:+ (place importer specifier).toList ∧
        place otherImporter other =
          place importer specifier ++ "." ++ config.extension) ∨
      (¬ ending config <:+ (place otherImporter other).toList ∧
        place importer specifier =
          place otherImporter other ++ "." ++ config.extension) := by
  have hending : ∀ path : String,
      path.toList ++ ending config =
        (path ++ "." ++ config.extension).toList := by
    intro path
    rw [String.toList_append, String.toList_append, List.append_assoc]
    rfl
  rw [resolve_eq h, resolve_eq hother, Except.ok.injEq, String.ofList_inj,
    addEnding_eq_iff, hending, hending, String.toList_inj, String.toList_inj,
    String.toList_inj]

/-- One file has one path. What a relative specifier resolves to is clean. Two
specifiers resolve to the same path if they lead to the same place, or to places
that differ by the ending alone, and in no other case. A name may be written
with the ending or without it. -/
theorem resolve_spelling (h : IsExtension config.extension.toList) :
    (∀ importer specifier, isRelative specifier = true →
      ∃ path, resolve config importer specifier = .ok path ∧
        Path.normalize path = path) ∧
    (∀ importer specifier otherImporter other, isRelative specifier = true →
      isRelative other = true →
      (resolve config importer specifier = resolve config otherImporter other ↔
        place importer specifier = place otherImporter other ∨
        (¬ ending config <:+ (place importer specifier).toList ∧
          place otherImporter other =
            place importer specifier ++ "." ++ config.extension) ∨
        (¬ ending config <:+ (place otherImporter other).toList ∧
          place importer specifier =
            place otherImporter other ++ "." ++ config.extension))) ∧
    ∀ importer specifier, isRelative specifier = true →
      lastPiece specifier.toList ∉ [[], ['.'], ['.', '.']] →
      ¬ ending config <:+ specifier.toList →
      resolve config importer (specifier ++ "." ++ config.extension) =
        resolve config importer specifier := by
  refine ⟨fun importer specifier hrelative => ?_,
    fun importer specifier otherImporter other
    hrelative hother => resolve_eq_iff hrelative hother importer otherImporter,
    fun importer specifier hrelative hlast hbare => ?_⟩
  · exact ⟨_, resolve_eq hrelative config importer,
      normalize_of_resolve h (resolve_eq hrelative config importer)⟩
  · have hproper : Proper (lastPiece specifier.toList) := by
      rw [List.mem_cons, List.mem_cons, List.mem_singleton, not_or,
        not_or] at hlast
      obtain ⟨hnone, hdot, hdots⟩ := hlast
      refine ⟨noSlash_lastPiece _, ?_, hdots⟩
      rw [isSilent, decide_eq_false hnone, decide_eq_false hdot]
      rfl
    exact resolve_append_ending h hrelative hproper hbare importer

theorem resolve_spelling_util :
    resolve .default "/src/app/index.ts" "../lib/util" = .ok
      "/src/lib/util.ts" ∧
    resolve .default "/src/app/index.ts" "../lib/util.ts" = .ok
      "/src/lib/util.ts" ∧
    resolve .default "/src/lib/" "./lib/../lib/util" = .ok "/src/lib/util.ts" ∧
    Path.normalize "/src/lib/util.ts" = "/src/lib/util.ts" := by
  have hutil : resolve .default "/src/app/index.ts" "../lib/util" =
      .ok "/src/lib/util.ts" := by
    decide +kernel
  have hextension : IsExtension Config.default.extension.toList :=
    ⟨by decide, by decide, by decide⟩
  obtain ⟨hclean, hplaces, hending⟩ := resolve_spelling hextension
  obtain ⟨path, hpath, hnormal⟩ :=
    hclean "/src/app/index.ts" "../lib/util" (by decide)
  obtain rfl := Except.ok.inj (hutil.symm.trans hpath)
  refine ⟨hutil, ?_, ?_, hnormal⟩
  · have hspelled :=
      hending "/src/app/index.ts" "../lib/util" (by decide) (by decide)
        (by decide)
    rw [← hutil, ← hspelled]
    exact congrArg (resolve .default "/src/app/index.ts") (by decide)
  · rw [← hutil]
    refine (hplaces _ _ _ _ (by decide) (by decide)).mpr (Or.inl ?_)
    decide +kernel

end Prune.Specifier

namespace Prune.Path

/-! ## The extension of a name -/

theorem fileName_of_proper {path : List Char} (h : Proper (lastPiece path)) :
    fileName path = some (lastPiece path) := by
  rw [fileName, segments_of_proper h, List.getLast?_concat]

theorem fileName_of_up {path : List Char} (h : lastPiece path = ['.', '.']) :
    fileName path = none := by
  have hsegments : segments path = segmentsBefore path ++ [.up] := by
    rw [segments_eq, h]
    rfl
  rw [fileName, hsegments, List.getLast?_concat]

/-- A name is what a path has between two slashes. -/
theorem noSlash_fileName {path name : List Char}
    (h : fileName path = some name) : '/' ∉ name := by
  rw [fileName] at h
  split at h
  · next hlast =>
      cases h
      have hmem : Segment.name name ∈ segments path :=
        List.mem_of_getLast? hlast
      have hnamed : Segment.name name ∈
          ((pieces path).filter fun piece => !isSilent piece).map
          pieceSegment := by
        rw [segments] at hmem
        split at hmem
        · exact (List.mem_cons.mp hmem).resolve_left Segment.noConfusion
        · exact hmem
      rcases follows_of_mem_named hnamed with hup | ⟨other, hother, hproper⟩
      · cases hup
      · cases hother
        exact hproper.noSlash
  · cases h

/-- The text after the last dot, if something stands before it. -/
theorem nameExtension_append (stem : List Char) {extension : List Char}
    (h : '.' ∉ extension) :
    nameExtension (stem ++ '.' :: extension) = if stem = [] then none
      else some extension := by
  have hreverse : (stem ++ '.' :: extension).reverse =
      extension.reverse ++ '.' :: stem.reverse := by
    rw [List.reverse_append, List.reverse_cons, List.append_assoc]
    rfl
  have hall : ∀ c ∈ extension.reverse, decide (c ≠ '.') = true := by
    intro c hc
    refine decide_eq_true ?_
    rintro rfl
    exact h (List.mem_reverse.mp hc)
  rw [nameExtension, hreverse, List.takeWhile_append_of_pos hall,
    List.dropWhile_append_of_pos hall, List.takeWhile_cons_of_neg (by decide),
    List.dropWhile_cons_of_neg (by decide), List.append_nil,
    List.reverse_reverse]
  cases hstem : stem.reverse with
  | nil => rw [if_pos (List.reverse_eq_nil_iff.mp hstem)]
  | cons c rest =>
      rw [if_neg]
      rintro rfl
      cases hstem

theorem of_nameExtension {name extension : List Char}
    (h : nameExtension name = some extension) :
    '.' ∉ extension ∧ extension ⊆ name := by
  have hextension : extension = (name.reverse.takeWhile (· ≠ '.')).reverse := by
    rw [nameExtension] at h
    split at h
    · cases h
    · cases h
    · exact (Option.some.inj h).symm
  rw [hextension]
  constructor
  · intro hdot
    have hall :=
      List.all_eq_true.mp List.all_takeWhile '.' (List.mem_reverse.mp hdot)
    exact absurd hall (by decide)
  · intro c hc
    exact List.mem_reverse.mp
      ((List.takeWhile_prefix _).subset (List.mem_reverse.mp hc))

/-- What is read as an extension has neither dots nor slashes. -/
theorem of_extensionChars {path extension : List Char}
    (h : extensionChars path = some extension) :
    '.' ∉ extension ∧ '/' ∉ extension := by
  obtain ⟨name, hname, hextension⟩ := Option.bind_eq_some_iff.mp h
  obtain ⟨hdot, hsubset⟩ := of_nameExtension hextension
  exact ⟨hdot, fun hslash => noSlash_fileName hname (hsubset hslash)⟩

theorem lastPiece_render (before : List Segment) {last : Segment}
    (h : last ≠ .root) (hslash : '/' ∉ segmentText last) :
    lastPiece (render (last :: before).reverse) = segmentText last := by
  rw [List.reverse_cons, render_append _ h]
  exact lastPiece_glue hslash _

/-- A clean path that says nothing behind its last slash leads to the place
itself or to the root. -/
theorem normalizeChars_of_silent {path : List Char}
    (h : isSilent (lastPiece (normalizeChars path)) = true) :
    normalizeChars path = ['.'] ∨ normalizeChars path = ['/'] := by
  obtain ⟨cleaned, htidy, hclean⟩ := exists_tidy path
  rw [hclean] at h ⊢
  cases htidy with
  | nil => exact Or.inl rfl
  | root => exact Or.inr rfl
  | up above =>
      rw [lastPiece_render _ Segment.noConfusion (by decide)] at h
      cases h
  | @name text rest proper tidy =>
      have hlast : lastPiece (render (.name text :: rest).reverse) = text :=
        lastPiece_render rest Segment.noConfusion proper.noSlash
      rw [hlast, proper.notSilent] at h
      cases h

/-- A path whose name has an extension of its own behind its last dot. -/
structure Told (extension path : List Char) : Prop where
  noDot : '.' ∉ extension
  noSlash : '/' ∉ extension
  notBare : lastPiece path ≠ '.' :: extension
  notUp : lastPiece path ≠ ['.', '.']

end Prune.Path

namespace Prune.Specifier

open Prune.Path

/-! ## Resolved paths and source files -/

variable {config : Config}

theorem isSourceFile_iff {path : String} : config.isSourceFile path = true ↔
    extensionChars path.toList = some config.extension.toList := by
  rw [Config.isSourceFile, decide_eq_true_iff, Path.extension,
    Option.map_eq_some_iff]
  constructor
  · rintro ⟨extension, hextension, hname⟩
    rw [hextension, ← hname, String.toList_ofList]
  · intro h
    exact ⟨_, h, String.ofList_toList⟩

/-- A clean path with a dot for its ending names nothing if only the dot is
behind its last slash. -/
theorem fileName_addEnding_dot (h : ending config = ['.']) (path : List Char)
    (hlast : lastPiece (addEnding config (normalizeChars path)) = ['.']) :
    fileName (addEnding config (normalizeChars path)) = none := by
  by_cases hsuffix : ending config <:+ normalizeChars path
  · rw [addEnding_of_suffix hsuffix] at hlast ⊢
    have hsilent : isSilent (lastPiece (normalizeChars path)) = true := by
      rw [hlast]; rfl
    rcases normalizeChars_of_silent hsilent with hhere | hroot
    · rw [hhere]
      rfl
    · rw [hroot]
      rfl
  · rw [addEnding_of_not_suffix hsuffix, h] at hlast ⊢
    rw [lastPiece_append_text _ (by decide)] at hlast
    have hnone : lastPiece (normalizeChars path) = [] :=
      List.append_cancel_right (hlast.trans (List.nil_append _).symm)
    have hsilent : isSilent (lastPiece (normalizeChars path)) = true := by
      rw [hnone]; rfl
    rcases normalizeChars_of_silent hsilent with hhere | hroot
    · rw [hhere]
      rfl
    · rw [hroot]
      rfl

theorem isSourceFile_addEnding_iff (path : List Char) :
    config.isSourceFile
      (String.ofList (addEnding config (normalizeChars path))) = true ↔
      Told config.extension.toList
        (addEnding config (normalizeChars path)) := by
  rw [isSourceFile_iff, String.toList_ofList]
  constructor
  · intro hextension
    obtain ⟨hdot, hslash⟩ := of_extensionChars hextension
    obtain ⟨name, hname, hafter⟩ := Option.bind_eq_some_iff.mp hextension
    refine ⟨hdot, hslash, fun hbare => ?_, fun hup => ?_⟩
    · by_cases hempty : config.extension.toList = []
      · have hnone :=
          fileName_addEnding_dot (by rw [ending, hempty]) path
            (by rw [hbare, hempty])
        rw [hnone] at hname
        cases hname
      · have hproper :
            Proper (lastPiece (addEnding config (normalizeChars path))) := by
          rw [hbare]
          exact IsExtension.proper ⟨hempty, hslash, hdot⟩ List.not_mem_nil
        rw [fileName_of_proper hproper, hbare] at hname
        obtain rfl := Option.some.inj hname
        have hnone := nameExtension_append [] hdot
        rw [List.nil_append, hafter] at hnone
        cases hnone
    · rw [fileName_of_up hup] at hname
      cases hname
  · intro htold
    obtain ⟨stem, hstem⟩ :=
      (suffix_lastPiece_iff (noSlash_ending htold.noSlash) _).mp
        (suffix_addEnding config _)
    have hne : stem ≠ [] := by
      rintro rfl
      exact htold.notBare hstem.symm
    have hproper :
        Proper (lastPiece (addEnding config (normalizeChars path))) := by
      refine ⟨noSlash_lastPiece _, ?_, htold.notUp⟩
      rw [← hstem]
      obtain ⟨c, rest, rfl⟩ := List.exists_cons_of_ne_nil hne
      simp [isSilent, ending]
    rw [extensionChars, fileName_of_proper hproper, Option.bind_some, ← hstem,
      ending, nameExtension_append stem htold.noDot, if_neg hne]

theorem checkEntry_eq_ok_iff {path : String} :
    config.checkEntry path = .ok () ↔ config.isSourceFile path = true := by
  rw [Config.checkEntry]
  split
  · next h => exact ⟨fun _ => h, fun _ => rfl⟩
  · next h =>
      refine ⟨fun hok => ?_, fun hsource => absurd hsource h⟩
      cases hok

theorem isRelative_of_resolve {importer specifier path : String}
    (h : resolve config importer specifier = .ok path) :
    isRelative specifier = true := by
  rw [resolve] at h
  split at h
  · next hrelative => exact hrelative
  · cases h

theorem suffix_of_resolve {importer specifier path : String}
    (h : resolve config importer specifier = .ok path) :
    ending config <:+ path.toList := by
  rw [resolve_eq (isRelative_of_resolve h)] at h
  cases h
  rw [String.toList_ofList]
  exact suffix_addEnding config _

theorem isSourceFile_of_resolve {importer specifier path : String}
    (h : resolve config importer specifier = .ok path) :
    config.isSourceFile path = true ↔
    Told config.extension.toList path.toList := by
  rw [resolve_eq (isRelative_of_resolve h), toList_place] at h
  cases h
  rw [isSourceFile_addEnding_iff, String.toList_ofList]

/-- What a relative specifier resolves to ends in the ending. It is a source
file, and would do as an entry, exactly if the last dot in its name is the dot
of the ending and has something before it. The same goes for all that a build
schedules besides its entry. -/
theorem isSourceFile_resolve_iff (config : Config) :
    (∀ importer specifier, isRelative specifier = true →
      ∃ path, resolve config importer specifier = .ok path ∧
        ending config <:+ path.toList ∧
        (config.isSourceFile path = true ↔
          Told config.extension.toList path.toList)) ∧
    ∀ load entry x,
      Exchange.Reached config load entry x → ∀ id ∈ x.build.scheduled,
      id = entry ∨ ending config <:+ id.toList ∧
        (config.checkEntry id = .ok () ↔
          Told config.extension.toList id.toList) := by
  constructor
  · intro importer specifier hrelative
    have hresolve := resolve_eq hrelative config importer
    exact ⟨_, hresolve, suffix_of_resolve hresolve,
      isSourceFile_of_resolve hresolve⟩
  · intro load entry x hreached id hid
    cases hreached.sound.needed id hid with
    | entry => exact Or.inl rfl
    | target _ compiled targets =>
        have hdissected := Build.dissected_of_compiledAt compiled
        obtain ⟨clause, hclause, rfl⟩ := hdissected.mem_targets.mp targets
        have hresolve := hdissected.resolved clause hclause
        exact Or.inr ⟨suffix_of_resolve hresolve,
          checkEntry_eq_ok_iff.trans (isSourceFile_of_resolve hresolve)⟩

/-- An entry that takes a name from a file whose name is the ending alone. -/
def hiddenSources : Sources :=
  .ofList [("/a.ts", "export{x}from'./.ts'"), ("/.ts", "export let x=eval")]

theorem over_hidden :
    (Build.ofSources .default hiddenSources "/a.ts" 0).inFlight.isEmpty = true ∧
    (Build.compiledAt .default hiddenSources.load "/a.ts" "/a.ts").map
      Module.targets =
      some ["/.ts", "/.ts"] := by
  decide +kernel

/-- The file is built, but it would not do as an entry. A file with a name of
its own would. -/
theorem isSourceFile_resolve_iff_hidden :
    ∃ x, Exchange.Reached .default hiddenSources.load "/a.ts" x ∧
      "/.ts" ∈ x.build.scheduled ∧
      Config.default.checkEntry "/.ts" ≠ .ok () ∧
      resolve .default "/a.ts" "./b" = .ok "/b.ts" ∧
      Config.default.isSourceFile "/b.ts" = true := by
  obtain ⟨hplaces, hbuilds⟩ := isSourceFile_resolve_iff .default
  obtain ⟨hover, htargets⟩ := over_hidden
  obtain ⟨x, hreached, hawaited, -⟩ :=
    Exchange.exists_over_ofSources (List.isEmpty_iff.mp hover)
  obtain ⟨module, hmodule, htargets⟩ := Option.map_eq_some_iff.mp htargets
  have hscheduled : "/.ts" ∈ x.build.scheduled := by
    refine (hreached.sound.scheduled_iff hawaited).mpr
      (.target .entry hmodule ?_)
    rw [htargets]
    exact List.mem_cons_self
  have hb : resolve .default "/a.ts" "./b" = .ok "/b.ts" := by decide +kernel
  refine ⟨x, hreached, hscheduled, fun hok => ?_, hb, ?_⟩
  · obtain hentry | ⟨-, hentry⟩ := hbuilds _ _ x hreached _ hscheduled
    · exact absurd hentry (by decide)
    · exact (hentry.mp hok).notBare (by decide)
  · obtain ⟨path, hpath, -, hsource⟩ := hplaces "/a.ts" "./b" (by decide)
    obtain rfl := Except.ok.inj (hb.symm.trans hpath)
    exact hsource.mpr ⟨by decide, by decide, by decide, by decide⟩

/-- Paths that end in the ending and are not source files: a name that is the
ending alone, and any name if the extension has a dot. -/
theorem unrecognized_endings :
    (Config.ofText "\x7b\x7d" = .ok .default ∧
      resolve .default "/a.ts" "./.ts" = .ok "/.ts" ∧
      Config.default.isSourceFile "/.ts" = false) ∧
    ∃ config, Config.ofText "\x7b\"extension\":\"d.ts\"\x7d" = .ok config ∧
      resolve config "/a.ts" "./b" = .ok "/b.d.ts" ∧
      config.isSourceFile "/b.d.ts" = false := by
  refine ⟨⟨ok_of_toOption ?_, ?_⟩, ⟨"d.ts", [], true, true⟩, ok_of_toOption ?_,
    ?_⟩ <;> decide +kernel

end Prune.Specifier
