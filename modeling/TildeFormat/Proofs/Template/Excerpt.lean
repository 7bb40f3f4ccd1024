/-
How a parse error is shown: two lines, an excerpt of the template and a
caret. Wherever in the template the error is, and however much of the
excerpt is cut off at either end, the caret stands under the character at
fault.

The excerpt begins forty characters in front of the place, or where the
template begins if that is later. So the caret has to be moved by what is
in front of the place in the excerpt, and not in the template. A line
break is shown as a space, which keeps the excerpt on one line and every
character of it in its column.
-/
import TildeFormat.Proofs.Template.Bounds

namespace TildeFormat

variable {registry : Registry} {template s t : Text} {c : Character}
  {e : ParseError}

-- ================================================================ lines

/-- A text with no separator in it is one piece. -/
theorem Text.splitAt_of_not_mem (h : c ∉ t) :
    Text.splitAt c t = [t] := by
  induction t with
  | nil => rfl
  | cons d t ih =>
      have hd : d ≠ c := (List.ne_of_not_mem_cons h).symm
      simp [splitAt, hd, ih (List.not_mem_of_not_mem_cons h)]

/-- What is in front of a first separator is the first piece. -/
theorem Text.splitAt_append (h : c ∉ s) (t : Text) :
    Text.splitAt c (s ++ c :: t) = s :: Text.splitAt c t := by
  induction s with
  | nil => simp [splitAt]
  | cons d s ih =>
      have hd : d ≠ c := (List.ne_of_not_mem_cons h).symm
      simp [splitAt, hd, ih (List.not_mem_of_not_mem_cons h)]

theorem Text.not_mem_replaceNewlines (hc : c ≠ '\n') (t : Text) :
    .scalar '\n' ∉ t.replaceNewlines c := by
  intro h
  obtain ⟨d, -, hd⟩ := List.mem_map.mp h
  by_cases hbreak : d = '\n'
  · rw [if_pos hbreak] at hd
    exact hc hd
  · rw [if_neg hbreak] at hd
    exact hbreak hd

theorem Text.not_mem_spaces (hc : c ≠ ' ') (count : Nat) :
    c ∉ Text.spaces count := fun h =>
  hc (List.eq_of_mem_replicate h)

-- ============================================================== excerpts

/-- A character as an excerpt shows it. -/
def shownChar (c : Character) : Character := if c = '\n' then ' ' else c

/-- Two lines show a place of a template: the one above is the template
from forty characters in front of the place to forty behind it, as far as
it goes, behind two spaces; the one below is a caret, and what stands
above the caret is the character at the place. -/
structure ShowsPlace (template : Text) (place : Nat) (above below : Text) :
    Prop where
  excerpt : ∃ before around after,
    template = before ++ (around ++ after)
      ∧ before.length = place - 40
      ∧ (before ++ around).length = min (place + 40) template.length
      ∧ around.length ≤ 80
      ∧ above = Text.spaces 2 ++ around.map shownChar
  caret : ∃ column, below = Text.spaces column ++ [.scalar '^']
    ∧ above[column]? = template[place]?.map shownChar

namespace ParseError

/-- The part of the template that is shown is cut out of it around the
place. -/
theorem exists_excerpt (h : e.position < template.length) :
    ∃ before around after,
      template = before ++ (around ++ after)
        ∧ before.length = e.position - 40
        ∧ (before ++ around).length
          = min (e.position + 40) template.length
        ∧ around.length ≤ 80
        ∧ e.excerpt template = around.map shownChar := by
  let start := e.position - 40
  let window := template.take (e.position + 40)
  have hwindow : template.take start = window.take start := by
    rw [List.take_take, Nat.min_eq_left (by omega)]
  have hlength : window.length
      = min (e.position + 40) template.length := List.length_take
  refine ⟨template.take start, window.drop start,
    template.drop (e.position + 40), ?_, ?_, ?_, ?_, rfl⟩
  · rw [← List.append_assoc, hwindow, List.take_append_drop,
      List.take_append_drop]
  · rw [List.length_take]
    omega
  · rw [hwindow, List.take_append_drop, hlength]
  · rw [List.length_drop, hlength]
    omega

/-- The character of the excerpt that is as far behind its start as the
place is behind the start of what is shown. -/
theorem getElem?_excerpt (template : Text) (e : ParseError) :
    (e.excerpt template)[e.position - (e.position - 40)]?
      = template[e.position]?.map shownChar := by
  have hplace : e.position - 40 + (e.position - (e.position - 40))
      = e.position := by omega
  have hinside : e.position < e.position + 40 := by omega
  show ((template.take (e.position + 40)).drop (e.position - 40)
    |>.map shownChar)[_]? = _
  rw [List.getElem?_map, List.getElem?_drop, hplace,
    List.getElem?_take_of_lt hinside]

/-- What is shown with an error is two lines, and they show its place. -/
theorem context_showsPlace (h : e.position < template.length) :
    ∃ above below,
      Text.splitAt '\n' (e.context template) = [above, below]
        ∧ ShowsPlace template e.position above below := by
  obtain ⟨before, around, after, hcut, hbefore, hto, hshort, hexcerpt⟩ :=
    exists_excerpt h
  let column := e.position - (e.position - 40) + 2
  let above := Text.spaces 2 ++ e.excerpt template
  let below := Text.spaces column ++ [.scalar '^']
  have hlines : e.context template = above ++ .scalar '\n' :: below := by
    simp only [context, above, List.append_assoc]
    rfl
  have habove : .scalar '\n' ∉ above := by
    intro hmem
    rcases List.mem_append.mp hmem with hmem | hmem
    · exact Text.not_mem_spaces (by decide) 2 hmem
    · exact Text.not_mem_replaceNewlines (by decide) _ hmem
  have hbelow : .scalar '\n' ∉ below := by
    intro hmem
    rcases List.mem_append.mp hmem with hmem | hmem
    · exact Text.not_mem_spaces (by decide) column hmem
    · exact absurd (List.mem_singleton.mp hmem) (by decide)
  refine ⟨above, below, ?_, ?_, column, rfl, ?_⟩
  · rw [hlines, Text.splitAt_append habove,
      Text.splitAt_of_not_mem hbelow]
  · exact ⟨before, around, after, hcut, hbefore, hto, hshort,
      congrArg (Text.spaces 2 ++ ·) hexcerpt⟩
  · have hspaces : (Text.spaces 2).length = 2 := rfl
    rw [List.getElem?_append_right (by omega), hspaces,
      Nat.add_sub_cancel]
    exact getElem?_excerpt template e

end ParseError

/-- A template that cannot be read is refused at one of its characters,
and what is shown with the error is two lines that show this
character. -/
theorem parse_error_shown (h : parse registry template = .error e) :
    e.position < template.length
      ∧ ∃ above below,
        Text.splitAt '\n' (e.context template) = [above, below]
          ∧ ShowsPlace template e.position above below :=
  ⟨position_lt_of_parse h, ParseError.context_showsPlace
    (position_lt_of_parse h)⟩

/-- A template of some lines, with an error too far from either end for
the excerpt to reach it. -/
def crowdedTemplate : Text :=
  word "Dear ~A,\nthe items you asked for are listed below.\n~\x7b~%"
    ++ word "~5,'.,2,D (~:*~A)~^,~\x7d\nThank you for your order, ~0@*~A."

def crowdedError : ParseError :=
  ⟨.wrongType (word "~D")
    ⟨"commachar", .character, .text [','], some 0⟩ (.integer 2), 61⟩

set_option maxRecDepth 4096 in
theorem parse_error_shown_crowdedTemplate :
    parse .standard crowdedTemplate = .error crowdedError
      ∧ crowdedError.position < crowdedTemplate.length
      ∧ ∃ above below,
        Text.splitAt '\n' (crowdedError.context crowdedTemplate)
            = [above, below]
          ∧ ShowsPlace crowdedTemplate crowdedError.position above below := by
  have hparse : parse .standard crowdedTemplate
      = .error crowdedError := by
    with_unfolding_all rfl
  exact ⟨hparse, parse_error_shown hparse⟩

end TildeFormat
