/-
The separator idiom. An iteration whose body ends with an escape and a
separator writes the separator between its passes: the escape fires behind
the last element, in front of the separator.

A pass sees only the elements it takes. So it comes to what a render of
these elements alone comes to, and all it adds is the separator, unless no
element is left. Over the groups of elements that the passes take this is a
join.
-/
import Mathlib.Data.List.Forall2
import TildeFormat.Proofs.Render.Doubled
import TildeFormat.Proofs.Render.Surplus

namespace TildeFormat

variable {registry : Registry} {settings : Settings} {tree : List Node}
  {body : Cursor → Run} {separator t : Text} {group : List Value}

-- ============================================================== one group

/-- A template takes this many arguments whenever it is rendered to its
end. -/
def Takes (registry : Registry) (tree : List Node) (count : Nat) : Prop :=
  ∀ arguments cursor,
    (render registry tree arguments).ending = .finished cursor →
    cursor.consumed = count

/-- A template that takes as many arguments as there are takes them all. -/
theorem Takes.ending (h : Takes registry tree group.length)
    (hresult : (render registry tree group).result = .ok t) :
    (render registry tree group).ending = .finished ⟨group.length, []⟩ := by
  obtain ⟨-, ⟨consumed, rest⟩, hending⟩ := Run.result_eq_ok_iff.mp hresult
  have hrest : rest = group.drop consumed := over_of_render_finished hending
  cases (h _ _ hending : consumed = group.length)
  rw [hending, hrest, List.drop_length]

theorem seesEnd_of_plain (h : ∀ node ∈ tree, node.Plain) :
    seesEnd tree = false := by
  induction tree with
  | nil => rfl
  | cons node tree ih =>
      obtain ⟨hnode, htree⟩ := List.forall_mem_cons.mp h
      refine Bool.or_eq_false_iff.mpr ⟨?_, ih htree⟩
      cases node with
      | literal => rfl
      | simple kind clause =>
          refine List.any_eq_false.mpr fun param hparam => ?_
          simpa using (hnode param hparam).2
      | iteration | justification | escape | group => exact absurd hnode id

/-- What is around a plain tree makes no difference to it. -/
theorem renderAll_of_plain (h : ∀ node ∈ tree, node.Plain)
    (scope scope' : List Construct) (cursor : Cursor) :
    renderAll registry scope tree cursor
      = renderAll registry scope' tree cursor := by
  induction tree generalizing cursor with
  | nil => rfl
  | cons node tree ih =>
      obtain ⟨hnode, htree⟩ := List.forall_mem_cons.mp h
      have hfirst : renderNode registry scope node cursor
          = renderNode registry scope' node cursor := by
        cases node with
        | literal | simple => rfl
        | iteration | justification | escape | group =>
            exact absurd hnode id
      rw [renderAll, renderAll, hfirst]
      congr 1
      funext next
      exact ih htree next

theorem Run.Suffices.of_finished {extra : List Value} {run run' : Run}
    (h : Run.Suffices extra run run') {cursor : Cursor}
    (hending : run.ending = .finished cursor) : run' = run.extend extra := by
  cases h with
  | same => rfl
  | exhausted hstopped => cases hending.symm.trans hstopped

/-- A plain tree on a group of arguments that it takes, written anywhere
and with anything around it, and with more arguments behind the group: it
puts out the same and leaves the others. -/
theorem renderAll_group (hplain : ∀ node ∈ tree, node.Plain)
    (htakes : Takes registry tree group.length)
    (hresult : (render registry tree group).result = .ok t)
    (f : Nat → Nat) (scope : List Construct) (m : Nat)
    (more : List Value) :
    (renderAll registry scope (moved f tree) ⟨m, group ++ more⟩).text = t
      ∧ ∃ n, (renderAll registry scope (moved f tree)
        ⟨m, group ++ more⟩).ending = .finished ⟨n, more⟩ := by
  have hending := htakes.ending hresult
  have hmore : Run.Suffices more (render registry tree group)
      (renderAll registry [] tree ⟨0, group ++ more⟩) :=
    renderAll_suffices registry [] more tree (seesEnd_of_plain hplain)
      (.ofList group)
  have hsame : SameRest ⟨0, group ++ more⟩ ⟨m, group ++ more⟩ := rfl
  have htracks : Run.Tracks f SameRest
      (renderAll registry [] tree ⟨0, group ++ more⟩)
      (renderAll registry [] (moved f tree) ⟨m, group ++ more⟩) :=
    tracking_sameRest.renderAll [] hsame
  rw [hmore.of_finished hending] at htracks
  rw [renderAll_of_plain (plain_moved hplain) scope []]
  refine ⟨htracks.text.trans (Run.result_eq_ok_iff.mp hresult).1, ?_⟩
  have hfinished := htracks.ending
  rw [Run.extend, Run.endingWith, hending] at hfinished
  obtain ⟨⟨n, rest⟩, hnext, hrest⟩ := hfinished.of_finished
  cases (hrest : rest = more)
  exact ⟨n, hnext⟩

-- ============================================================ one pass

/-- On a group of elements the body of a loop puts out a text and, if more
elements are behind the group, a separator; if not, it escapes. -/
structure Separates (body : Cursor → Run) (separator : Text)
    (group : List Value) (t : Text) : Prop where
  nonempty : group ≠ []
  last : ∀ m, (body ⟨m, group⟩).text = t
    ∧ ∃ next, (body ⟨m, group⟩).ending = .escaped false next
  before : ∀ m more, more ≠ [] →
    (body ⟨m, group ++ more⟩).text = t ++ separator
      ∧ ∃ n, (body ⟨m, group ++ more⟩).ending = .finished ⟨n, more⟩

/-- An escape without parameters in a loop over elements fires when there
are no more. -/
theorem renderEscape_bare (registry : Registry) (scope : List Construct)
    (depth position : Nat) (cursor : Cursor) :
    let run := renderEscape registry (.elements :: scope) depth
      { position := position } cursor
    run.text = []
      ∧ run.ending = if cursor.exhausted then .escaped false cursor
        else .finished cursor := by
  obtain ⟨values, hvalues⟩ :=
    resolveParams_kept escapeName kept_nil (registry.slots '^')
  simp only [renderEscape, hvalues, orFail, List.isEmpty_nil, if_true,
    nothingLeft, Bool.false_eq_true, if_false, Run.noting]
  cases cursor.exhausted <;> exact ⟨rfl, rfl⟩

/-- A plain tree on a group that it takes, and an escape behind it. -/
theorem renderAll_group_escape (hplain : ∀ node ∈ tree, node.Plain)
    (htakes : Takes registry tree group.length)
    (hresult : (render registry tree group).result = .ok t)
    (f : Nat → Nat) (depth position m : Nat) (more : List Value) :
    let run := renderAll registry [.elements]
      (moved f tree ++ [.escape depth { position := position }])
      ⟨m, group ++ more⟩
    run.text = t
      ∧ ∃ n, run.ending = if more.isEmpty then .escaped false ⟨n, more⟩
        else .finished ⟨n, more⟩ := by
  obtain ⟨htext, n, hending⟩ :=
    renderAll_group hplain htakes hresult f [.elements] m more
  obtain ⟨hnothing, hescape⟩ :=
    renderEscape_bare registry [] depth position ⟨n, more⟩
  rw [renderAll_append, Run.andThen_of_finished hending,
    renderAll_singleton]
  refine ⟨?_, n, hescape⟩
  show _ ++ (renderEscape registry [.elements] depth
    { position := position } ⟨n, more⟩).text = t
  rw [hnothing, htext, List.append_nil]

/-- A plain tree, an escape and a tree that puts out the separator. -/
theorem separates_joined {later : List Node}
    (hplain : ∀ node ∈ tree, node.Plain)
    (hlater : PutsOut registry separator later) (hnonempty : group ≠ [])
    (htakes : Takes registry tree group.length)
    (hresult : (render registry tree group).result = .ok t)
    (f : Nat → Nat) (depth position : Nat) :
    Separates
      (renderAll registry [.elements]
        (joined (moved f tree ++ [.escape depth { position := position }])
          later))
      separator group t := by
  have hfront :=
    renderAll_group_escape hplain htakes hresult f depth position
  refine ⟨hnonempty, fun m => ?_, fun m more hmore => ?_⟩
  · obtain ⟨htext, n, hending⟩ := hfront m []
    rw [List.append_nil] at htext hending
    rw [renderAll_joined, Run.andThen_of_not_finished]
    · exact ⟨htext, _, hending⟩
    · intro cursor hfinished
      cases hending.symm.trans hfinished
  · obtain ⟨htext, n, hending⟩ := hfront m more
    rw [List.isEmpty_eq_false_iff.mpr hmore] at hending
    obtain ⟨hseparator, hfinished⟩ := hlater [.elements] ⟨n, more⟩
    rw [renderAll_joined, Run.andThen_of_finished hending]
    exact ⟨congr (congrArg _ htext) hseparator, n, hfinished⟩

-- ================================================================ the loop

namespace Separates

variable {stuck : RenderError}

theorem pass (h : Separates body separator group t) (m : Nat)
    (more : List Value) : ¬NoPass false none ⟨m, group ++ more⟩ := by
  rintro (hlimit | ⟨hexhausted, -⟩)
  · cases hlimit
  · have hnone := List.isEmpty_iff.mp hexhausted
    exact h.nonempty (List.append_eq_nil_iff.mp hnone).1

/-- The pass over the last group ends the loop. -/
theorem result_last (h : Separates body separator group t) (m : Nat) :
    (overElements body stuck false none ⟨m, group⟩).run.result = .ok t := by
  obtain ⟨htext, next, hending⟩ := h.last m
  have hpass := h.pass m []
  rw [List.append_nil] at hpass
  rw [overElements_pass hpass, hending]
  exact Run.result_eq_ok_iff.mpr ⟨htext, next, rfl⟩

/-- Behind the pass over any other group there is a separator, and the loop
goes on with the elements behind it. -/
theorem result_before (h : Separates body separator group t) (m : Nat)
    {more : List Value} (hmore : more ≠ []) {u : Text}
    (hrest : ∀ n, (overElements body stuck false none ⟨n, more⟩).run.result
      = .ok u) :
    (overElements body stuck false none ⟨m, group ++ more⟩).run.result
      = .ok (t ++ separator ++ u) := by
  obtain ⟨htext, n, hending⟩ := h.before m more hmore
  have hgoes : (Cursor.mk n more).exhausted = false :=
    List.isEmpty_eq_false_iff.mpr hmore
  have hless : (Cursor.mk n more).remaining
      < (Cursor.mk m (group ++ more)).remaining := by
    have := List.length_pos_iff.mpr h.nonempty
    simp only [Cursor.remaining, List.length_append]
    omega
  rw [overElements_pass (h.pass m more), hending]
  simp only [hgoes, Bool.false_eq_true, if_false]
  rw [if_neg fun hstays => hstays.2 hless, Passes.after, ← htext]
  exact Run.result_behind_eq_ok_iff.mpr (hrest n)

end Separates

/-- A loop over groups of elements puts out their texts with the separator
between them. -/
theorem overElements_join {stuck : RenderError} {groups : List (List Value)}
    {texts : List Text}
    (h : List.Forall₂ (Separates body separator) groups texts) (m : Nat) :
    (overElements body stuck false none ⟨m, groups.flatten⟩).run.result
      = .ok (Text.join separator texts) := by
  induction h generalizing m with
  | nil =>
      rw [overElements_none (.inr ⟨rfl, rfl⟩)]
      rfl
  | cons hgroup hgroups ih =>
      rw [List.flatten_cons]
      cases hgroups with
      | nil =>
          rw [List.flatten_nil, List.append_nil]
          exact hgroup.result_last m
      | cons hsecond =>
          exact hgroup.result_before m
            (List.append_ne_nil_of_left_ne_nil hsecond.nonempty _) ih

-- ================================================================ result

/-- An iteration without parameters starts with no limit at the elements of
its argument. -/
theorem loopStart_bare {v : Value} {items : List Value}
    (hitems : v.elements? = some items) :
    loopStart (.builtin settings) {} (.ofList [v])
      = .ok ⟨none, .ofList items, fun _ => ⟨1, []⟩⟩ := by
  have hvalues : resolveParams Shape.iteration.name []
      ((Registry.builtin settings).slots Shape.iteration.opener)
      (.ofList [v]) = .ok ([.absent], .ofList [v]) := rfl
  have htake : (Cursor.ofList [v]).take Shape.iteration.name 0
      = .ok (v, ⟨1, []⟩) := rfl
  have hopen : openList 0 v = .ok items := by
    rw [openList, hitems]
  simp only [loopStart, hvalues, passLimit?, htake, hopen,
    Bool.false_eq_true, if_false]

/-- An iteration over a plain body that takes `count` elements, an escape
and a separator is a join: on a list of groups of so many elements, each of
which the body renders, it puts out the texts of the groups with the
separator between them. -/
theorem render_join {t : Text} {tree : List Node}
    (hparse : parse (.builtin settings) t = .ok tree)
    (hplain : ∀ node ∈ tree, node.Plain) {count : Nat} (hcount : 1 ≤ count)
    (htakes : Takes (.builtin settings) tree count) (separator : Text) :
    ∃ whole, parse (.builtin settings)
        (word "~\x7b" ++ t ++ word "~^" ++ doubled separator
          ++ word "~\x7d") = .ok whole
      ∧ ∀ (v : Value) (groups : List (List Value)) (texts : List Text),
        v.elements? = some groups.flatten →
        List.Forall₂ (fun group text => group.length = count
          ∧ (render (.builtin settings) tree group).result = .ok text)
          groups texts →
        (render (.builtin settings) whole [v]).result
          = .ok (Text.join separator texts) := by
  obtain ⟨later, hlater, hplain', hputs⟩ :=
    exists_tree_doubled settings separator
  refine ⟨_, parse_separated hparse hplain hlater hplain', ?_⟩
  intro v groups texts hitems hrenders
  have hgroups : List.Forall₂
      (Separates
        (renderAll (.builtin settings) [.elements]
          (joined (moved (· + 2) tree
              ++ [.escape 1 { position := 2 + t.length }])
            (moved (· + (2 + t.length + 2)) later)))
        separator) groups texts := by
    refine hrenders.imp fun group text hgroup => ?_
    obtain ⟨rfl, hresult⟩ := hgroup
    exact separates_joined hplain (hputs.moved _)
      (List.length_pos_iff.mp hcount) htakes hresult _ _ _
  rw [render_iteration_result, loopStart_bare hitems]
  exact overElements_join hgroups 0

/-- Drawing a field takes nothing. -/
theorem finished_of_drawField {directive : Text} {position : Nat}
    {field : Field} {cursor next : Cursor}
    (h : (drawField directive position field cursor).ending
      = .finished next) : next = cursor := by
  unfold drawField at h
  split at h <;> cases h
  rfl

/-- Two elements for each pass, the first skipped, and a separator with a
tilde in it. -/
theorem render_join_skipped :
    let tree : List Node :=
      [.simple .skip ⟨[], {}, 0⟩, .simple .human ⟨[], {}, 2⟩]
    parse .standard (word "~*~A") = .ok tree
      ∧ (∀ node ∈ tree, node.Plain) ∧ 1 ≤ 2 ∧ Takes .standard tree 2
      ∧ ∃ whole, parse .standard (word "~\x7b~*~A~^~~, ~\x7d") = .ok whole
        ∧ (render .standard whole
            [.list [.int 1, .str ['a'], .int 2, .str ['b']]]).result
          = .ok (word "a~, b") := by
  intro tree
  have hparse : parse .standard (word "~*~A") = .ok tree := by
    with_unfolding_all rfl
  have hplain : ∀ node ∈ tree, node.Plain :=
    List.forall_mem_cons.mpr ⟨kept_nil,
      List.forall_mem_cons.mpr ⟨kept_nil, nofun⟩⟩
  have htakes : Takes .standard tree 2 := by
    intro arguments cursor hending
    match arguments with
    | [] => cases hending
    | [a] => cases hending
    | a :: b :: rest =>
      have hskip : (renderNode .standard [] (.simple .skip ⟨[], {}, 0⟩)
          (.ofList (a :: b :: rest))).ending
            = .finished ⟨1, b :: rest⟩ := rfl
      rw [render, renderAll, Run.andThen_of_finished hskip,
        renderAll_singleton] at hending
      cases finished_of_drawField hending
      rfl
  obtain ⟨whole, hwhole, hjoin⟩ :=
    render_join hparse hplain (by decide) htakes (word "~, ")
  refine ⟨hparse, hplain, by decide, htakes, whole, ?_, ?_⟩
  · exact hwhole
  · exact hjoin _ [[.int 1, .str ['a']], [.int 2, .str ['b']]]
      [['a'], ['b']] rfl
      (.cons ⟨rfl, rfl⟩ (.cons ⟨rfl, rfl⟩ .nil))

end TildeFormat
