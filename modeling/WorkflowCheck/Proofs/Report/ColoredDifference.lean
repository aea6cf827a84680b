import WorkflowCheck.Report.Difference

/-! A comparison rendered with colours, and read again. Each segment stands between the sequence of
its colour and the one that ends it, so the sequences give back all segments, also those that are
empty or of one kind with a neighbour. Only the texts may hold no escape character of their own. -/

namespace WorkflowCheck.Report

open Diff

/-- The character that every sequence begins with. -/
def escape : Char := '\x1b'

def Unescaped (text : String) : Prop := escape ∉ text.toList

instance (text : String) : Decidable (Unescaped text) :=
  inferInstanceAs (Decidable (escape ∉ text.toList))

/-- A text cut at its escape characters. All parts but the first one begin with a sequence. -/
def parts (text : String) : List (List Char) := text.toList.splitOn escape

/-- What a part holds behind its sequence. -/
def behindSequence (part : List Char) : List Char := (part.dropWhile (· != 'm')).tail

/-- A text without its sequences, each of which goes from an escape character to the next `m`. -/
def visible (text : String) : String :=
  match parts text with
  | [] => ""
  | first :: styled => String.ofList (first ++ styled.flatMap behindSequence)

/-- The sequence of a kind, behind its escape character. -/
def opening (kind : SegmentKind) : List Char :=
  (Palette.full.start (.plain (color kind))).toList.tail

def closing : List Char := Palette.full.colorReset.toList.tail

/-- The segment whose colour a part begins with. -/
def painted? (part : List Char) : Option Segment :=
  let text := behindSequence part
  ([.common, .added, .removed].find? fun kind => part == opening kind ++ text).map
    (⟨·, String.ofList text⟩)

def paintedSegments? : List (List Char) → Option (List Segment)
  | [] => some []
  | [_] => none
  | opened :: closed :: rest =>
    if closed = closing then
      (painted? opened).bind fun s => (paintedSegments? rest).map (s :: ·)
    else none

/-- The segments of a rendering, each from the sequence of its colour to the one that ends it.
Nothing may stand between two of them. -/
def readColors? (rendering : String) : Option (List Segment) :=
  match parts rendering with
  | [] :: styled => paintedSegments? styled
  | _ => none

/-- The two parts that a segment makes up. -/
def styledParts (s : Segment) : List (List Char) := [opening s.kind ++ s.text.toList, closing]

variable {segments : List Segment} {s : Segment} {rendering : String}

theorem behindSequence_opening (kind : SegmentKind) (text : List Char) :
    behindSequence (opening kind ++ text) = text := by
  cases kind <;> rfl

theorem behindSequence_closing : behindSequence closing = [] := rfl

theorem escape_not_mem_opening (kind : SegmentKind) : escape ∉ opening kind := by
  cases kind <;> decide

theorem escape_not_mem_closing : escape ∉ closing := by decide

theorem start_eq (kind : SegmentKind) :
    (Palette.full.start (.plain (color kind))).toList = escape :: opening kind := by
  cases kind <;> rfl

theorem colorReset_eq : Palette.full.colorReset.toList = escape :: closing := rfl

theorem toList_paintSegment (s : Segment) :
    (paintSegment .full s).toList = (styledParts s).flatMap (escape :: ·) := by
  simp [paintSegment, Palette.paint, Palette.finish, styledParts, start_eq, colorReset_eq]

theorem flatMap_cons_eq_intercalate (pieces : List (List Char)) :
    pieces.flatMap (escape :: ·) = [escape].intercalate ([] :: pieces) := by
  -- the join grows at its first piece, which is therefore left open
  suffices h : ∀ first, first ++ pieces.flatMap (escape :: ·) =
      [escape].intercalate (first :: pieces) from h []
  induction pieces with
  | nil => simp
  | cons part rest ih =>
    intro first
    rw [List.intercalate_cons_cons, ← ih part]
    simp

theorem toList_render (segments : List Segment) :
    (render .full segments).toList = [escape].intercalate ([] :: segments.flatMap styledParts) := by
  rw [← flatMap_cons_eq_intercalate, List.flatMap_assoc, render, String.toList_join,
    List.flatMap_map]
  exact congrArg segments.flatMap (funext toList_paintSegment)

theorem escape_not_mem_styledParts (h : Unescaped s.text) :
    ∀ part ∈ styledParts s, escape ∉ part := by
  have hopened : escape ∉ opening s.kind ++ s.text.toList := by
    rw [List.mem_append, not_or]
    exact ⟨escape_not_mem_opening s.kind, h⟩
  simp only [styledParts, List.forall_mem_cons]
  exact ⟨hopened, escape_not_mem_closing, List.forall_mem_nil _⟩

theorem parts_render (h : ∀ s ∈ segments, Unescaped s.text) :
    parts (render .full segments) = [] :: segments.flatMap styledParts := by
  rw [parts, toList_render]
  refine List.splitOn_intercalate escape ?_ (List.cons_ne_nil _ _)
  intro part hpart
  rcases List.mem_cons.mp hpart with rfl | hpart
  · exact List.not_mem_nil
  · obtain ⟨s, hs, hpart⟩ := List.mem_flatMap.mp hpart
    exact escape_not_mem_styledParts (h s hs) part hpart

theorem render_of_parts (h : parts rendering = [] :: segments.flatMap styledParts) :
    rendering = render .full segments := by
  rw [← String.toList_inj, toList_render, ← h, parts, List.intercalate_splitOn]

theorem opening_beq (kind : SegmentKind) (text : List Char) :
    (fun k => opening kind ++ text == opening k ++ text) = (kind == ·) := by
  funext k
  rw [Bool.eq_iff_iff, beq_iff_eq, beq_iff_eq, List.append_cancel_right_eq]
  cases kind <;> cases k <;> decide

theorem painted?_eq_some {part : List Char} :
    painted? part = some s ↔ part = opening s.kind ++ s.text.toList := by
  constructor
  · intro h
    obtain ⟨kind, hfind, rfl⟩ := Option.map_eq_some_iff.mp h
    simpa using List.find?_some hfind
  · rintro rfl
    obtain ⟨kind, text⟩ := s
    rw [painted?, behindSequence_opening, opening_beq]
    cases kind <;> simp

theorem paintedSegments?_flatMap (segments : List Segment) :
    paintedSegments? (segments.flatMap styledParts) = some segments := by
  induction segments with
  | nil => rfl
  | cons s rest ih =>
    have hs : painted? (opening s.kind ++ s.text.toList) = some s := painted?_eq_some.mpr rfl
    simp [styledParts, paintedSegments?, hs, ih]

theorem eq_flatMap_of_paintedSegments? {styled : List (List Char)}
    (h : paintedSegments? styled = some segments) : styled = segments.flatMap styledParts := by
  fun_induction paintedSegments? styled generalizing segments with
  | case1 =>
    cases h
    rfl
  | case2 => cases h
  | case3 opened rest ih =>
    obtain ⟨s, hs, h⟩ := Option.bind_eq_some_iff.mp h
    obtain ⟨others, hrest, rfl⟩ := Option.map_eq_some_iff.mp h
    rw [List.flatMap_cons, ← ih hrest, painted?_eq_some.mp hs]
    rfl
  | case4 => cases h

/-- Reading accepts exactly what is rendered. -/
theorem readColors?_eq_some (h : ∀ s ∈ segments, Unescaped s.text) :
    readColors? rendering = some segments ↔ rendering = render .full segments := by
  constructor
  · intro hread
    unfold readColors? at hread
    split at hread
    · next styled hparts =>
      rw [eq_flatMap_of_paintedSegments? hread] at hparts
      exact render_of_parts hparts
    · cases hread
  · rintro rfl
    rw [readColors?, parts_render h]
    exact paintedSegments?_flatMap segments

theorem visible_render (h : ∀ s ∈ segments, Unescaped s.text) :
    visible (render .full segments) = String.join (segments.map (·.text)) := by
  have hbehind (s : Segment) : (styledParts s).flatMap behindSequence = s.text.toList := by
    simp [styledParts, behindSequence_opening, behindSequence_closing]
  rw [visible, parts_render h]
  simp [← String.toList_inj, String.toList_join, List.flatMap_assoc, hbehind, List.flatMap_map]

/-- A rendering with colours is the only text that is read back as the segments it was made of, and
without its sequences it is their texts, one after the other. -/
theorem colored_difference_reads_back (h : ∀ s ∈ segments, Unescaped s.text) :
    (∀ rendering, readColors? rendering = some segments ↔ rendering = render .full segments) ∧
      visible (render .full segments) = String.join (segments.map (·.text)) ∧
      ∀ others : List Segment, (∀ s ∈ others, Unescaped s.text) →
        render .full others = render .full segments → others = segments := by
  refine ⟨fun rendering => readColors?_eq_some h, visible_render h, fun others hothers heq => ?_⟩
  have hread : readColors? (render .full others) = some others := (readColors?_eq_some hothers).mpr rfl
  rw [heq, (readColors?_eq_some h).mpr rfl] at hread
  exact (Option.some.inj hread).symm

/-- Texts that look like parts of sequences, and empty ones between neighbours of one kind. -/
def lookalikes : List Segment :=
  [⟨.removed, "[39m"⟩, ⟨.removed, ""⟩, ⟨.added, ""⟩, ⟨.added, "8;5;9m\n\n["⟩, ⟨.common, "m"⟩]

theorem lookalikes_read_back : (∀ s ∈ lookalikes, Unescaped s.text) ∧
    readColors? (render .full lookalikes) = some lookalikes ∧
      visible (render .full lookalikes) = "[39m8;5;9m\n\n[m" := by
  have h : ∀ s ∈ lookalikes, Unescaped s.text := by decide
  obtain ⟨hread, hvisible, -⟩ := colored_difference_reads_back h
  exact ⟨h, (hread _).mpr rfl, hvisible⟩

end WorkflowCheck.Report
