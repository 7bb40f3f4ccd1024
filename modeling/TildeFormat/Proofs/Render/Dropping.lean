/-
A justification whose escape fires shows its finished segments and drops
the one the escape stands in, with whatever nested constructs have put out
there. It puts out what the justification of the finished segments alone
puts out, and goes on where the escape was, not where the last finished
segment ended.

When none was finished there is no segment at all. To the field this is
the same as one segment that is empty: there is no gap between segments
either way, so the same pad points are asked for.
-/
import TildeFormat.Proofs.Render.Escaping

namespace TildeFormat

variable {registry : Registry} {scope : List Construct}
  {clause : Clause} {cursor next here last : Cursor}

-- ================================================================ fields

/-- No segment and an empty one are spread alike. -/
theorem JustifiedField.draw_nil (field : JustifiedField) :
    field.draw [] = field.draw [[]] := rfl

-- ============================================================== segments

/-- Segments behind segments that finished. -/
theorem renderSegments_append {segments : List (List Node)}
    (h : (renderSegments registry scope segments cursor).ending
      = .finished here) (later : List (List Node)) :
    let first := renderSegments registry scope segments cursor
    let rest := renderSegments registry scope later here
    renderSegments registry scope (segments ++ later) cursor
      = ⟨first.texts ++ rest.texts, first.events ++ rest.events,
        rest.ending⟩ := by
  induction segments generalizing cursor with
  | nil =>
      cases h
      rfl
  | cons segment segments ih =>
      rw [renderSegments] at h ⊢
      rw [List.cons_append, renderSegments]
      unfold Run.thenSegments at h ⊢
      cases hending : (renderAll registry scope segment cursor).ending with
      | finished between =>
          rw [hending] at h
          simp only [ih h, List.cons_append, List.append_assoc]
      | escaped | stopped =>
          rw [hending] at h
          cases h

/-- Segments up to the first in which an escape fires. -/
theorem renderSegments_escaped {done : List (List Node)}
    (hdone : (renderSegments registry scope done cursor).ending
      = .finished here) {segment : List Node} {wholeLoop : Bool}
    (hescaped : (renderAll registry scope segment here).ending
      = .escaped wholeLoop last) (later : List (List Node)) :
    let laid := renderSegments registry scope (done ++ segment :: later)
      cursor
    laid.texts = (renderSegments registry scope done cursor).texts
      ∧ laid.ending = .escaped wholeLoop last := by
  have hsegment : renderSegments registry scope (segment :: later) here
      = ⟨[], (renderAll registry scope segment here).events,
        .escaped wholeLoop last⟩ := by
    rw [renderSegments, Run.thenSegments, hescaped]
  rw [renderSegments_append hdone, hsegment]
  exact ⟨List.append_nil _, rfl⟩

/-- The segments, or an empty one if there are none. -/
def atLeastOneSegment (segments : List (List Node)) : List (List Node) :=
  if segments.isEmpty then [[]] else segments

/-- One empty segment finishes, and to the field it is no segment. -/
theorem renderSegments_atLeastOne {segments : List (List Node)}
    (h : (renderSegments registry scope segments cursor).ending
      = .finished here) :
    let laid := renderSegments registry scope (atLeastOneSegment segments)
      cursor
    laid.ending = .finished here
      ∧ ∀ field : JustifiedField, field.draw
          (renderSegments registry scope segments cursor).texts
        = field.draw laid.texts := by
  cases segments with
  | nil => exact ⟨h, JustifiedField.draw_nil⟩
  | cons => exact ⟨h, fun _ => rfl⟩

-- ======================================================== justifications

/-- The ending of a run that goes on elsewhere if it finishes. -/
def Ending.resumedAt (cursor : Cursor) : Ending → Ending
  | .finished _ => .finished cursor
  | ending => ending

/-- The field over which a justification with these parameter values
spreads its segments, if they are of the right types. -/
def Clause.justifiedField? (clause : Clause) :
    List ParamValue → Option JustifiedField
  | [.integer mincol, .integer colinc, .integer minpad, .text padchar] =>
    some ⟨mincol, colinc, minpad, padchar, clause.modifiers.colon,
      clause.modifiers.atSign⟩
  | _ => none

/-- A justification whose parameters have their values. -/
theorem renderJustification_of_values {values : List ParamValue}
    (hvalues : resolveParams Shape.justification.name clause.params
        (registry.slots Shape.justification.opener) cursor
      = .ok (values, next)) (segments : Cursor → SegmentRun) :
    renderJustification registry segments clause cursor
      = match clause.justifiedField? values with
        | none => .stop (misfit 4 values)
        | some field =>
          let drawn := drawField Shape.justification.name clause.position
            (.justified field (segments next).texts)
          Run.noting (segments next).events
            (match (segments next).ending with
            | .stopped why => .stop why
            | .finished last => drawn last
            | .escaped _ last => drawn last) := by
  unfold renderJustification
  simp only [hvalues, orFail]
  split
  · rfl
  · next hother =>
    have hnone : clause.justifiedField? values = none := by
      unfold Clause.justifiedField?
      split
      · exact (hother _ _ _ _ rfl).elim
      · rfl
    rw [hnone]

/-- Fields that are drawn alike put out the same, wherever the render goes
on. -/
theorem drawField_resumed (directive : Text) (position : Nat)
    {field field' : Field} (h : field.draw = field'.draw) :
    let run := drawField directive position field last
    let run' := drawField directive position field' here
    run.text = run'.text ∧ run.ending = run'.ending.resumedAt last := by
  simp only [drawField, h]
  cases field'.draw with
  | ok t => exact ⟨rfl, rfl⟩
  | error fault => cases fault <;> exact ⟨rfl, rfl⟩

theorem drawField_of_ok (directive : Text) (position : Nat)
    {field : Field} {t : Text} (h : field.draw = .ok t) :
    (drawField directive position field here).ending
      = .finished here := by
  rw [drawField, h]
  rfl

theorem renderJustification_escaped {values : List ParamValue}
    (hvalues : resolveParams Shape.justification.name clause.params
        (registry.slots Shape.justification.opener) cursor
      = .ok (values, next)) {segments segments' : Cursor → SegmentRun}
    {wholeLoop : Bool}
    (hescaped : (segments next).ending = .escaped wholeLoop last)
    (hfinished : (segments' next).ending = .finished here)
    (hdraw : ∀ field : JustifiedField, field.draw (segments next).texts
      = field.draw (segments' next).texts) :
    let run := renderJustification registry segments clause cursor
    let run' := renderJustification registry segments' clause cursor
    run.text = run'.text ∧ run.ending = run'.ending.resumedAt last := by
  rw [renderJustification_of_values hvalues,
    renderJustification_of_values hvalues]
  cases clause.justifiedField? values with
  | none => exact ⟨rfl, rfl⟩
  | some field =>
      simp only [hescaped, hfinished]
      exact drawField_resumed _ _ (hdraw field)

/-- An escape in a justification drops the segment it fires in and those
behind it. Once the parameters have their values and the segments in front
have finished, an escape that stands in the next segment directly, in no
construct of it, and fires there makes the justification put out what it
puts out with just the finished segments, or an empty one if there are
none. It ends as that one does, but where it finishes the render goes on
where the escape was; it finishes if its field can be drawn, so surely if
this is in its domain and not beyond counting. -/
theorem renderNode_justification_escaped {values : List ParamValue}
    (hvalues : resolveParams Shape.justification.name clause.params
        (registry.slots Shape.justification.opener) cursor
      = .ok (values, next)) {finished : List (List Node)}
    (hfinished : (renderSegments registry (.justification :: scope)
      finished next).ending = .finished here) {segment : List Node}
    {depth : Nat} {escape : Clause} {there : Cursor}
    (hreached : Reached registry (.justification :: scope) depth escape
      there segment here) {wholeLoop : Bool}
    (hfires : (renderEscape registry (.justification :: scope) depth escape
      there).ending = .escaped wholeLoop last) (later : List (List Node)) :
    let node (segments : List (List Node)) : Node :=
      .justification segments clause
    let whole := node (finished ++ segment :: later)
    let run := renderNode registry scope whole cursor
    let short :=
      renderNode registry scope (node (atLeastOneSegment finished)) cursor
    run.text = short.text
      ∧ run.ending = short.ending.resumedAt last
      ∧ (∀ rest, short.ending = .finished here →
        renderAll registry scope (whole :: rest) cursor
          = (renderAll registry scope rest last).behind short.text
            run.events)
      ∧ ∀ field texts, clause.justifiedField? values = some field →
        (renderSegments registry (.justification :: scope) finished
          next).texts = texts →
        (Field.justified field texts).InDomain →
        (Field.justified field texts).extent < countLimit →
        short.ending = .finished here := by
  intro node whole run short
  have hescaped : (renderAll registry (.justification :: scope) segment
      here).ending = .escaped wholeLoop last :=
    (hreached.ending (by rw [hfires]; trivial)).trans hfires
  obtain ⟨htexts, hlaid⟩ :=
    renderSegments_escaped hfinished hescaped later
  obtain ⟨hone, hdraw⟩ := renderSegments_atLeastOne hfinished
  obtain ⟨htext, hending⟩ := renderJustification_escaped hvalues hlaid hone
    fun field => (congrArg field.draw htexts).trans (hdraw field)
  refine ⟨htext, hending, fun rest hshort => ?_, ?_⟩
  · have hrun : run.ending = .finished last := by
      rw [show run.ending = short.ending.resumedAt last from hending, hshort]
      rfl
    rw [renderAll, Run.andThen_of_finished hrun]
    exact congrArg (Run.behind · run.events _) htext
  · rintro field texts hfield rfl hdomain hcount
    obtain ⟨t, ht⟩ := JustifiedField.draw_eq_ok hdomain hcount
    show (renderJustification registry _ clause cursor).ending = _
    rw [renderJustification_of_values hvalues, hfield]
    simp only [hone]
    exact drawField_of_ok _ _ ((hdraw field).symm.trans ht)

/-- The second segment holds a loop that is left by an escape of its own
before the escape of the justification fires. -/
theorem renderNode_justification_escaped_nested :
    let clause : Clause := ⟨[⟨.integer 4, 1⟩], ⟨true, true⟩, 0⟩
    let first : List Node := [.simple .human ⟨[], {}, 5⟩]
    let loop : Node :=
      .iteration
        [.simple .human ⟨[], {}, 12⟩, .escape 2 ⟨[], {}, 14⟩,
          .literal [','] 16]
        false ⟨[], ⟨true, false⟩, 9⟩
    let escape : Clause := ⟨[], {}, 20⟩
    let second : List Node := [loop, .literal ['b'] 19, .escape 1 escape]
    let items : Value := .list [.list [.int 1], .list [.int 2, .int 3]]
    let cursor := Cursor.ofList [.int 7, items]
    let here : Cursor := ⟨1, [items]⟩
    let last : Cursor := ⟨2, []⟩
    let inside : List Construct := [.justification]
    let whole : Node :=
      .justification [first, second, [.literal ['c'] 24]] clause
    let run := renderNode .standard [] whole cursor
    let short :=
      renderNode .standard [] (.justification [first] clause) cursor
    resolveParams Shape.justification.name clause.params
        (Registry.standard.slots Shape.justification.opener) cursor
        = .ok ([.integer 4, .integer 1, .integer 0, .text [' ']], cursor)
      ∧ (renderSegments .standard inside [first] cursor).ending
        = .finished here
      ∧ Reached .standard inside 1 escape last second here
      ∧ (renderEscape .standard inside 1 escape last).ending
        = .escaped false last
      ∧ (renderAll .standard inside second here).text = word "12,b"
      ∧ short.text = word " 7  " ∧ run.text = short.text
      ∧ short.ending = .finished here ∧ run.ending = .finished last
      ∧ ∀ rest, renderAll .standard [] (whole :: rest) cursor
        = (renderAll .standard [] rest last).behind short.text
          run.events := by
  intro clause first loop escape second items cursor here last inside whole
    run short
  have hvalues : resolveParams Shape.justification.name clause.params
      (Registry.standard.slots Shape.justification.opener) cursor
      = .ok ([.integer 4, .integer 1, .integer 0, .text [' ']],
        cursor) := rfl
  have hfinished : (renderSegments .standard inside [first] cursor).ending
      = .finished here := by
    with_unfolding_all rfl
  have hreached : Reached .standard inside 1 escape last second here := by
    have hloop : (renderNode .standard inside loop here).ending
        = .finished last := by
      with_unfolding_all rfl
    exact .behind hloop (.behind rfl .here)
  have hfires : (renderEscape .standard inside 1 escape last).ending
      = .escaped false last := rfl
  have hshort : short.ending = .finished here := by with_unfolding_all rfl
  obtain ⟨htext, hending, hrest, -⟩ := renderNode_justification_escaped
    hvalues hfinished hreached hfires [[.literal ['c'] 24]]
  exact ⟨hvalues, hfinished, hreached, hfires,
    by with_unfolding_all rfl, by with_unfolding_all rfl, htext, hshort,
    hending.trans (congrArg _ hshort), fun rest => hrest rest hshort⟩

end TildeFormat
