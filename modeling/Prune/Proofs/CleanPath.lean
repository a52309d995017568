import Prune.Specifier

/-!
# Clean paths

A module is known by its cleaned path, and the file of a module is looked up
under the path that its importer gave it. Both are the same text because what
resolving a specifier gives is clean: cleaning it again changes nothing.

`Tidy` says which segments cleaning leaves, innermost first: names, then what
leads upwards, or the root in its place. Segments that are tidy are read back
from their text (`segments_render`), and pushing them one by one gives them
again (`cleanSegments_of_tidy`). The ending that resolving adds makes a name out
of the last segment, whatever that was, and names may stand on anything.
-/

namespace Prune.Path

/-- A piece that is read as a name. -/
structure Proper (piece : List Char) : Prop where
  noSlash : '/' ∉ piece
  notSilent : isSilent piece = false
  notUp : piece ≠ ['.', '.']

/-- Cleaned segments, the innermost first. -/
inductive Tidy : List Segment → Prop where
  | nil : Tidy []
  | root : Tidy [.root]
  | up {rest : List Segment} (above : ∀ segment ∈ rest, segment = .up) :
      Tidy (.up :: rest)
  | name {text : List Char} {rest : List Segment} (proper : Proper text)
      (tidy : Tidy rest) :
      Tidy (.name text :: rest)

theorem tidy_of_ups {cleaned : List Segment}
    (h : ∀ segment ∈ cleaned, segment = .up) :
    Tidy cleaned := by
  cases cleaned with
  | nil => exact .nil
  | cons segment rest =>
      obtain rfl := h segment List.mem_cons_self
      exact .up fun other hother => h other (List.mem_cons_of_mem _ hother)

/-! ## Pieces -/

theorem pieces_ne_nil (path : List Char) : pieces path ≠ [] := by
  cases path with
  | nil => exact List.cons_ne_nil _ _
  | cons c rest =>
      rw [pieces]
      split
      · exact List.cons_ne_nil _ _
      · split <;> exact List.cons_ne_nil _ _

theorem pieces_slash (rest : List Char) :
    pieces ('/' :: rest) = [] :: pieces rest := by
  rw [pieces]
  split
  · next h => exact absurd h (pieces_ne_nil rest)
  · next first others h => rw [if_pos rfl, h]

theorem pieces_append {piece : List Char} (h : '/' ∉ piece)
    {path first : List Char} {others : List (List Char)}
    (hpath : pieces path = first :: others) :
    pieces (piece ++ path) = (piece ++ first) :: others := by
  induction piece with
  | nil => exact hpath
  | cons c piece ih =>
      rw [List.mem_cons, not_or] at h
      rw [List.cons_append, pieces, ih h.2]
      exact if_neg (Ne.symm h.1)

theorem pieces_of_noSlash {piece : List Char} (h : '/' ∉ piece) :
    pieces piece = [piece] := by
  have hpieces : pieces (piece ++ []) = [piece ++ []] := pieces_append h rfl
  rw [List.append_nil] at hpieces
  exact hpieces

theorem pieces_glue {piece : List Char} {rest : List (List Char)}
    (h : ∀ other ∈ piece :: rest, '/' ∉ other) :
    pieces (glue (piece :: rest)) = piece :: rest := by
  induction rest generalizing piece with
  | nil => exact pieces_of_noSlash (h piece List.mem_cons_self)
  | cons next rest ih =>
      have hrest :=
        ih fun other hother => h other (List.mem_cons_of_mem _ hother)
      have hsplit : pieces ('/' :: glue (next :: rest)) =
          [] :: next :: rest := by
        rw [pieces_slash, hrest]
      have hpieces := pieces_append (h piece List.mem_cons_self) hsplit
      rw [List.append_nil] at hpieces
      exact hpieces

theorem glue_cons (piece : List Char) {rest : List (List Char)}
    (h : rest ≠ []) :
    glue (piece :: rest) = piece ++ '/' :: glue rest := by
  cases rest with
  | nil => exact absurd rfl h
  | cons next rest => rfl

/-- What is added to glued pieces is added to the last of them. -/
theorem glue_append (before : List (List Char)) (piece text : List Char) :
    glue (before ++ [piece]) ++ text = glue (before ++ [piece ++ text]) := by
  induction before with
  | nil => rfl
  | cons first before ih =>
      rw [List.cons_append, List.cons_append, glue_cons first (by simp),
        glue_cons first (by simp), ← ih, List.append_assoc, List.cons_append]

/-! ## What is not tidy yet -/

theorem noSlash_of_mem_pieces {path piece : List Char}
    (h : piece ∈ pieces path) : '/' ∉ piece := by
  induction path generalizing piece with
  | nil =>
      rw [List.mem_singleton.mp h]
      exact List.not_mem_nil
  | cons c rest ih =>
      rw [pieces] at h
      split at h
      · next hrest => exact absurd hrest (pieces_ne_nil rest)
      · next first others hrest =>
          rw [hrest] at ih
          split at h
          · rcases List.mem_cons.mp h with rfl | hmem
            · exact List.not_mem_nil
            · exact ih hmem
          · next hc =>
              rcases List.mem_cons.mp h with rfl | hmem
              · rw [List.mem_cons, not_or]
                exact ⟨Ne.symm hc, ih List.mem_cons_self⟩
              · exact ih (List.mem_cons_of_mem _ hmem)

/-- A piece that says something leads upwards or is a name. -/
theorem pieceSegment_cases {path piece : List Char} (h : piece ∈ pieces path)
    (hloud : isSilent piece = false) :
    pieceSegment piece = .up ∨ pieceSegment piece = .name piece ∧
    Proper piece := by
  rw [pieceSegment]
  split
  · exact Or.inl rfl
  · next hup => exact Or.inr ⟨rfl, noSlash_of_mem_pieces h, hloud, hup⟩

/-- A segment that may follow others. -/
def Follows (segment : Segment) : Prop :=
  segment = .up ∨ ∃ text, segment = .name text ∧ Proper text

theorem follows_of_mem_named {path : List Char} {segment : Segment}
    (h : segment ∈
      ((pieces path).filter fun piece => !isSilent piece).map pieceSegment) :
    Follows segment := by
  obtain ⟨piece, hpiece, rfl⟩ := List.mem_map.mp h
  obtain ⟨hmem, hloud⟩ := List.mem_filter.mp hpiece
  rw [Bool.not_eq_true'] at hloud
  exact (pieceSegment_cases hmem hloud).imp_right fun h => ⟨piece, h⟩

theorem Tidy.push {cleaned : List Segment} (h : Tidy cleaned)
    {segment : Segment} (hsegment : Follows segment) :
    Tidy (push cleaned segment) := by
  rcases hsegment with rfl | ⟨text, rfl, hproper⟩
  · cases h with
    | nil => exact .up fun _ hmem => absurd hmem List.not_mem_nil
    | root => exact .root
    | up above =>
        exact .up fun segment hmem =>
          (List.mem_cons.mp hmem).elim id (above segment)
    | name _ tidy => exact tidy
  · have hpush : Path.push cleaned (.name text) = .name text :: cleaned := by
      cases cleaned <;> rfl
    rw [hpush]
    exact .name hproper h

theorem Tidy.foldl_push {cleaned : List Segment} (h : Tidy cleaned)
    {segments : List Segment}
    (hsegments : ∀ segment ∈ segments, Follows segment) :
    Tidy (segments.foldl Path.push cleaned) := by
  induction segments generalizing cleaned with
  | nil => exact h
  | cons segment segments ih =>
      exact ih (h.push (hsegments segment List.mem_cons_self))
        fun other hother => hsegments other (List.mem_cons_of_mem _ hother)

/-- Cleaning leaves what is tidy. -/
theorem exists_tidy (path : List Char) :
    ∃ cleaned, Tidy cleaned ∧ normalizeChars path = render cleaned.reverse := by
  refine ⟨(segments path).foldl Path.push [], ?_, rfl⟩
  rw [segments]
  split
  · rw [List.foldl_cons]
    exact Tidy.root.foldl_push fun _ h => follows_of_mem_named h
  · exact Tidy.nil.foldl_push fun _ h => follows_of_mem_named h

/-! ## What is tidy stays as it is -/

theorem cleanSegments_of_tidy {cleaned : List Segment} (h : Tidy cleaned) :
    cleanSegments cleaned.reverse = cleaned.reverse := by
  have hfold : cleaned.reverse.foldl push [] = cleaned := by
    induction cleaned with
    | nil => rfl
    | cons segment rest ih =>
        rw [List.reverse_cons, List.foldl_append, List.foldl_cons,
          List.foldl_nil]
        cases h with
        | root => rfl
        | up above =>
            rw [ih (tidy_of_ups above)]
            cases rest with
            | nil => rfl
            | cons next rest =>
                obtain rfl := above next List.mem_cons_self
                rfl
        | name _ tidy =>
            rw [ih tidy]
            cases rest <;> rfl
  rw [cleanSegments, hfold]

theorem Follows.proper_text {segment : Segment} (h : Follows segment) :
    '/' ∉ segmentText segment ∧ isSilent (segmentText segment) = false ∧
      pieceSegment (segmentText segment) = segment := by
  rcases h with rfl | ⟨text, rfl, hproper⟩
  · decide
  · exact ⟨hproper.noSlash, hproper.notSilent, if_neg hproper.notUp⟩

/-- Segments that follow others are read back from their glued texts. -/
theorem named_glue {named : List Segment}
    (h : ∀ segment ∈ named, Follows segment) (hne : named ≠ []) :
    ((pieces (glue (named.map segmentText))).filter fun piece =>
      !isSilent piece).map
        pieceSegment = named := by
  have hpieces :
      pieces (glue (named.map segmentText)) = named.map segmentText := by
    cases named with
    | nil => exact absurd rfl hne
    | cons segment rest =>
        refine pieces_glue fun piece hpiece => ?_
        rw [← List.map_cons] at hpiece
        obtain ⟨other, hother, rfl⟩ := List.mem_map.mp hpiece
        exact (h other hother).proper_text.1
  rw [hpieces, List.filter_map, List.map_map, List.filter_eq_self.mpr]
  · conv => rhs; rw [← List.map_id named]
    exact List.map_congr_left fun segment hsegment =>
      (h segment hsegment).proper_text.2.2
  · intro segment hsegment
    rw [Function.comp_apply, (h segment hsegment).proper_text.2.1]
    rfl

theorem isAbsolute_glue {named : List Segment}
    (h : ∀ segment ∈ named, Follows segment) (hne : named ≠ []) :
    isAbsolute (glue (named.map segmentText)) = false := by
  cases named with
  | nil => exact absurd rfl hne
  | cons segment rest =>
      obtain ⟨hslash, hsilent, -⟩ := (h segment List.mem_cons_self).proper_text
      cases htext : segmentText segment with
      | nil =>
          rw [htext] at hsilent
          cases hsilent
      | cons c text =>
          rw [htext, List.mem_cons, not_or] at hslash
          rw [List.map_cons, htext]
          have hhead : (glue ((c :: text) :: rest.map segmentText)).head? =
              some c := by
            cases rest <;> rfl
          rw [isAbsolute, hhead, decide_eq_false_iff_not, Option.some_inj]
          exact Ne.symm hslash.1

/-- Tidy segments stand on the root or on nothing. -/
theorem Tidy.named {cleaned : List Segment} (h : Tidy cleaned) :
    ∃ named : List Segment, (∀ segment ∈ named, Follows segment) ∧
      (cleaned.reverse = named ∨ cleaned.reverse = .root :: named) := by
  induction h with
  | nil => exact ⟨[], fun _ h => absurd h List.not_mem_nil, Or.inl rfl⟩
  | root => exact ⟨[], fun _ h => absurd h List.not_mem_nil, Or.inr rfl⟩
  | @up rest above =>
      refine ⟨_, fun segment hsegment => ?_, Or.inl rfl⟩
      rw [List.mem_reverse, List.mem_cons] at hsegment
      exact Or.inl (hsegment.elim id (above segment))
  | @name text rest proper _ ih =>
      obtain ⟨named, hnamed, hreverse⟩ := ih
      refine ⟨named ++ [.name text], fun segment hsegment => ?_, ?_⟩
      · rcases List.mem_append.mp hsegment with hbefore | hlast
        · exact hnamed segment hbefore
        · exact Or.inr ⟨text, List.mem_singleton.mp hlast, proper⟩
      · rw [List.reverse_cons]
        exact hreverse.imp (fun h => by rw [h])
          (fun h => by rw [h, List.cons_append])

theorem render_of_ne {segments : List Segment} (hne : segments ≠ [])
    (hroot : segments ≠ [.root]) :
    render segments = glue (segments.map segmentText) := by
  rw [render]
  · exact hne
  · exact hroot

theorem segments_render {cleaned : List Segment} (h : Tidy cleaned) :
    segments (render cleaned.reverse) = cleaned.reverse := by
  obtain ⟨named, hnamed, hreverse | hreverse⟩ := h.named
  · rw [hreverse]
    cases named with
    | nil => rfl
    | cons segment rest =>
        have hrender : render (segment :: rest) =
            glue ((segment :: rest).map segmentText) := by
          have hroot : segment ≠ .root := by
            rintro rfl
            rcases hnamed .root List.mem_cons_self with h | ⟨_, h, -⟩
            · cases h
            · cases h
          exact render_of_ne (List.cons_ne_nil _ _) fun h =>
            hroot (List.cons.inj h).1
        have hne : segment :: rest ≠ [] := List.cons_ne_nil _ _
        rw [hrender, segments, isAbsolute_glue hnamed hne,
          named_glue hnamed hne]
        rfl
  · rw [hreverse]
    cases named with
    | nil => rfl
    | cons segment rest =>
        have hrender : render (.root :: segment :: rest) =
            '/' :: glue ((segment :: rest).map segmentText) := rfl
        have hne : segment :: rest ≠ [] := List.cons_ne_nil _ _
        rw [hrender, segments, pieces_slash,
          List.filter_cons_of_neg (by decide), named_glue hnamed hne]
        rfl

theorem normalizeChars_render {cleaned : List Segment} (h : Tidy cleaned) :
    normalizeChars (render cleaned.reverse) = render cleaned.reverse := by
  rw [normalizeChars, segments_render h, cleanSegments_of_tidy h]

/-- Cleaning a clean path changes nothing. -/
theorem normalizeChars_normalizeChars (path : List Char) :
    normalizeChars (normalizeChars path) = normalizeChars path := by
  obtain ⟨cleaned, htidy, hclean⟩ := exists_tidy path
  rw [hclean, normalizeChars_render htidy]

theorem normalize_normalize (path : String) :
    normalize (normalize path) = normalize path := by
  rw [normalize, normalize, String.toList_ofList, normalizeChars_normalizeChars]

/-! ## Resolved specifiers -/

/-- What follows an extension that can be told from the rest of a path. -/
structure IsExtension (extension : List Char) : Prop where
  notEmpty : extension ≠ []
  noSlash : '/' ∉ extension
  noDot : '.' ∉ extension

theorem IsExtension.proper {extension : List Char} (h : IsExtension extension)
    {text : List Char} (htext : '/' ∉ text) :
    Proper (text ++ '.' :: extension) := by
  obtain ⟨c, rest, rfl⟩ := List.exists_cons_of_ne_nil h.notEmpty
  refine ⟨?_, ?_, ?_⟩
  · rw [List.mem_append, List.mem_cons, not_or, not_or]
    exact ⟨htext, by decide, h.noSlash⟩
  · cases text with
    | nil => simp [isSilent]
    | cons d text => simp [isSilent]
  · intro hup
    cases text with
    | nil =>
        cases hup
        exact h.noDot List.mem_cons_self
    | cons d text =>
        have hlength := congrArg List.length hup
        rw [List.length_append, List.length_cons, List.length_cons,
          List.length_cons] at hlength
        dsimp only [List.length_cons, List.length_nil] at hlength
        omega

theorem render_append (before : List Segment) {last : Segment}
    (h : last ≠ .root) :
    render (before ++ [last]) =
      glue (before.map segmentText ++ [segmentText last]) := by
  rw [render_of_ne, List.map_append, List.map_singleton]
  · exact List.append_ne_nil_of_right_ne_nil _ (List.cons_ne_nil _ _)
  · intro hroot
    have hlast := congrArg List.getLast? hroot
    rw [List.getLast?_append, List.getLast?_singleton,
      List.getLast?_singleton] at hlast
    exact h (Option.some.inj hlast)

/-- An extension makes a name of the segment it is added to. -/
theorem render_append_extension (before : List Segment) {last : Segment}
    (h : last ≠ .root) (extension : List Char) :
    render (before ++ [last]) ++ '.' :: extension =
      render (before ++ [.name (segmentText last ++ '.' :: extension)]) := by
  rw [render_append before h, render_append before Segment.noConfusion,
    glue_append]
  rfl

theorem exists_tidy_append {cleaned : List Segment} (h : Tidy cleaned)
    {extension : List Char} (hextension : IsExtension extension) :
    ∃ named, Tidy named ∧
      render cleaned.reverse ++ '.' :: extension = render named.reverse := by
  have hname : ∀ text : List Char, '/' ∉ text → ∀ {rest}, Tidy rest →
      Tidy (.name (text ++ '.' :: extension) :: rest) :=
    fun _ htext _ hrest => .name (hextension.proper htext) hrest
  -- A path that is empty is written as a dot, which the name then begins with.
  -- After a root the name has nothing before the dot of the extension.
  cases h with
  | nil =>
      exact ⟨[.name (['.'] ++ '.' :: extension)],
        hname ['.'] (by decide) .nil, rfl⟩
  | root =>
      exact ⟨[.name ([] ++ '.' :: extension), .root],
        hname [] (by decide) .root, rfl⟩
  | @up rest above =>
      refine ⟨_, hname (segmentText .up) (by decide) (tidy_of_ups above), ?_⟩
      rw [List.reverse_cons, List.reverse_cons]
      exact render_append_extension _ Segment.noConfusion extension
  | @name text rest proper tidy =>
      refine ⟨_, hname text proper.noSlash tidy, ?_⟩
      rw [List.reverse_cons, List.reverse_cons]
      exact render_append_extension _ Segment.noConfusion extension

end Prune.Path

namespace Prune.Specifier

open Prune.Path

/-- The path that a specifier leads to is clean. -/
theorem normalize_of_resolve {config : Config}
    (h : IsExtension config.extension.toList) {importer specifier path : String}
    (hresolve : resolve config importer specifier = .ok path) :
    Path.normalize path = path := by
  rw [resolve] at hresolve
  split at hresolve
  · cases hresolve
    rw [Path.normalize, String.toList_ofList, addEnding]
    split
    · rw [normalizeChars_normalizeChars]
    · obtain ⟨cleaned, htidy, hclean⟩ := exists_tidy
        (joinChars ((parentChars importer.toList).getD []) specifier.toList)
      obtain ⟨named, hnamed, hrender⟩ := exists_tidy_append htidy h
      rw [hclean, ending, hrender, normalizeChars_render hnamed]
  · cases hresolve

end Prune.Specifier
