/-
The passes of a loop over sublists know nothing of one another. Each has
a cursor of its own, and where it leaves that no other pass sees. All a
pass can tell of the loop is how many sublists are left, and only an
escape that would leave the whole loop asks for it. In a body without one
a pass depends on its sublist alone, and nothing but an error ends the
loop before its last sublist. So what the loop does over some sublists
and then some more is what it does over the first and, unless that
fails, what it does over the others behind it.

Such an escape has a colon and stands in the body itself: one inside a
construct of the body is that construct's.
-/
import TildeFormat.Proofs.Render.Escaping
import TildeFormat.Proofs.Render.Spreading

namespace TildeFormat

variable {registry : Registry}

-- ============================================================== escapes

mutual

/-- The node is an escape that leaves the whole loop around it, or has
one in its group. -/
def Node.leavesLoop : Node → Bool
  | .escape _ clause => clause.modifiers.colon
  | .group items => leavesLoop items
  | _ => false

/-- An escape that leaves the whole loop stands in the sequence. -/
def leavesLoop : List Node → Bool
  | [] => false
  | node :: rest => node.leavesLoop || leavesLoop rest

end

/-- An escape that fires leaves the whole loop if it says so. -/
theorem renderEscape_wholeLoop {scope : List Construct} {depth : Nat}
    {clause : Clause} {cursor last : Cursor} {wholeLoop : Bool}
    (h : (renderEscape registry scope depth clause cursor).ending
      = .escaped wholeLoop last) : clause.modifiers.colon = wholeLoop := by
  cases scope with
  | nil => cases h
  | cons inner scope =>
      simp only [renderEscape, orFail] at h
      cases hvalues : resolveParams escapeName clause.params
          (registry.slots '^') cursor with
      | error e =>
          rw [hvalues] at h
          cases h
      | ok resolved =>
          simp only [hvalues, Run.noting] at h
          split at h <;> cases h
          rfl

/-- An escape that is reached stands in the sequence. -/
theorem Reached.leavesLoop {scope : List Construct} {depth : Nat}
    {clause : Clause} {there cursor : Cursor} {nodes : List Node}
    (h : Reached registry scope depth clause there nodes cursor)
    (hcolon : clause.modifiers.colon = true) :
    TildeFormat.leavesLoop nodes = true := by
  induction h with
  | here => exact Bool.or_eq_true_iff.mpr (.inl hcolon)
  | within _ ih => exact Bool.or_eq_true_iff.mpr (.inl ih)
  | behind _ _ ih => exact Bool.or_eq_true_iff.mpr (.inr ih)

/-- Nodes without an escape of their own out of the loop fire none. -/
theorem renderAll_stays {scope : List Construct} {nodes : List Node}
    (h : leavesLoop nodes = false) (cursor last : Cursor) :
    (renderAll registry scope nodes cursor).ending
      ≠ .escaped true last := by
  intro hending
  have hescapes : (Ending.escaped true last).OfEscape := trivial
  obtain ⟨depth, clause, there, hreached, hescape⟩ :=
    (renderAll_ending_iff hescapes).mp hending
  cases h.symm.trans (hreached.leavesLoop (renderEscape_wholeLoop hescape))

-- ======================================================== sublists left

/-- Constructs around a node that are as many and have the same innermost
one; unless the node asks for it, this may be a loop with another number
of sublists left. -/
inductive Alike : Bool → List Construct → List Construct → Prop
  | same {asks : Bool} (inner : Construct)
      {outer outer' : List Construct}
      (h : outer.length = outer'.length) :
      Alike asks (inner :: outer) (inner :: outer')
  | sublists (left left' : Nat) {outer outer' : List Construct}
      (h : outer.length = outer'.length) :
      Alike false (.sublists left :: outer) (.sublists left' :: outer')

namespace Alike

variable {asks : Bool} {scope scope' : List Construct}

/-- Scopes that are alike are equally deep. -/
theorem length_eq (h : Alike asks scope scope') :
    scope.length = scope'.length := by
  cases h with
  | same _ h | sublists _ _ h => exact congrArg (· + 1) h

/-- What asks less tells no more apart. -/
theorem mono {less : Bool} (h : Alike asks scope scope')
    (hless : less = true → asks = true) : Alike less scope scope' := by
  cases h with
  | same inner h => exact .same inner h
  | sublists left left' h =>
      cases less with
      | false => exact .sublists left left' h
      | true => cases hless rfl

/-- An escape does the same in scopes that are alike to it. -/
theorem renderEscape {clause : Clause}
    (h : Alike clause.modifiers.colon scope scope') (depth : Nat) :
    renderEscape registry scope depth clause
      = renderEscape registry scope' depth clause := by
  funext cursor
  generalize hcolon : clause.modifiers.colon = asks at h
  cases h with
  | same inner h =>
      simp only [TildeFormat.renderEscape, List.length_cons, h]
  | sublists left left' h =>
      simp only [TildeFormat.renderEscape, List.length_cons, h, hcolon,
        nothingLeft]
      rfl

end Alike

mutual

/-- A node that does not ask for the list around it renders the same in
both scopes. By one induction with nodes and segments. -/
theorem renderNode_alike (registry : Registry)
    {scope scope' : List Construct} (node : Node)
    (h : Alike node.leavesLoop scope scope') :
    renderNode registry scope node = renderNode registry scope' node := by
  match node with
  | .literal .. | .simple .. => rfl
  | .escape depth clause => exact h.renderEscape depth
  | .group items => exact renderAll_alike registry items h
  | .iteration body atLeastOnce clause =>
      have hbody (construct : Construct) :=
        renderAll_alike registry body (.same construct h.length_eq)
      funext cursor
      simp only [renderNode, hbody]
  | .justification segments clause =>
      have hsegments := renderSegments_alike registry segments
        fun _ => .same .justification h.length_eq
      funext cursor
      simp only [renderNode, hsegments]
termination_by structural node

theorem renderAll_alike (registry : Registry)
    {scope scope' : List Construct} (nodes : List Node)
    (h : Alike (leavesLoop nodes) scope scope') :
    renderAll registry scope nodes = renderAll registry scope' nodes := by
  match nodes with
  | [] => rfl
  | node :: rest =>
      have hnode := renderNode_alike registry node
        (h.mono fun hasks => Bool.or_eq_true_iff.mpr (.inl hasks))
      have hrest := renderAll_alike registry rest
        (h.mono fun hasks => Bool.or_eq_true_iff.mpr (.inr hasks))
      funext cursor
      simp only [renderAll, hnode, hrest]
termination_by structural nodes

theorem renderSegments_alike (registry : Registry)
    {scope scope' : List Construct} (segments : List (List Node))
    (h : ∀ asks, Alike asks scope scope') :
    renderSegments registry scope segments
      = renderSegments registry scope' segments := by
  match segments with
  | [] => rfl
  | segment :: rest =>
      have hsegment := renderAll_alike registry segment (h _)
      have hrest := renderSegments_alike registry rest h
      funext cursor
      simp only [renderSegments, hsegment, hrest]
termination_by structural segments

end

-- ============================================================== results

/-- The failure behind a text that was put out before. -/
def Failure.behind (t : Text) : Failure → Failure
  | .render e soFar => .render e (t ++ soFar)
  | failure => failure

/-- A result with another one behind it: the first failure, or both
texts. -/
def joinedResult (first second : Except Failure Text) :
    Except Failure Text :=
  match first with
  | .error failure => .error failure
  | .ok a =>
    match second with
    | .error failure => .error (failure.behind a)
    | .ok b => .ok (a ++ b)

theorem Failure.behind_nil (failure : Failure) :
    failure.behind [] = failure := by
  cases failure <;> rfl

/-- Texts in front of a failure add up. -/
theorem Failure.behind_behind (failure : Failure) (s t : Text) :
    (failure.behind t).behind s = failure.behind (s ++ t) := by
  cases failure with
  | render e soFar =>
      show Failure.render e (s ++ (t ++ soFar)) = .render e (s ++ t ++ soFar)
      rw [List.append_assoc]
  | parse | fault | escape => rfl

/-- Joining nothing changes nothing. -/
theorem joinedResult_nil (result : Except Failure Text) :
    joinedResult (.ok []) result = result := by
  cases result with
  | error failure => exact congrArg _ failure.behind_nil
  | ok b => rfl

/-- It does not matter how results are joined. -/
theorem joinedResult_assoc (first second third : Except Failure Text) :
    joinedResult (joinedResult first second) third
      = joinedResult first (joinedResult second third) := by
  cases first with
  | error failure => rfl
  | ok a =>
      cases second with
      | error failure => rfl
      | ok b =>
          cases third with
          | error failure =>
              exact congrArg _ (failure.behind_behind a b).symm
          | ok c => exact congrArg _ (List.append_assoc a b c)

/-- A text in front of a run is joined to its result. -/
theorem Run.result_behind (run : Run) (t : Text) (events : List Event) :
    (run.behind t events).result = joinedResult (.ok t) run.result := by
  obtain ⟨text, _, ending⟩ := run
  cases ending with
  | finished | escaped => rfl
  | stopped why => cases why <;> rfl

/-- The result of two runs is their results joined. -/
theorem Run.result_andThen (run next : Run) :
    (run.andThen fun _ => next).result
      = joinedResult run.result next.result := by
  cases hending : run.ending with
  | finished cursor =>
      have hrun : run.result = .ok run.text :=
        result_eq_ok_iff.mpr ⟨rfl, cursor, hending⟩
      rw [andThen_of_finished hending, result_behind, hrun]
  | escaped wholeLoop cursor =>
      rw [andThen, hending, result, hending]
      rfl
  | stopped why =>
      rw [andThen, hending, result, hending]
      cases why <;> rfl

-- =============================================================== passes

/-- The run with an escape that fires in it caught. -/
def Run.caught (run : Run) : Run :=
  match run.ending with
  | .escaped _ cursor => run.endingWith (.finished cursor)
  | _ => run

/-- A pass over a sublist by itself. -/
def sublistPass (body : Cursor → Run)
    (open? : Value → Except RenderError (List Value)) (v : Value) : Run :=
  orFail (open? v) fun items => (body (.ofList items)).caught

section

variable {body : Cursor → Run}
  {open? : Value → Except RenderError (List Value)}

/-- A loop with a body that never leaves it makes its first pass and then
the others. -/
theorem overSublists_cons
    (hstays : ∀ cursor last, (body cursor).ending ≠ .escaped true last)
    (consumed : Nat) (v : Value) (rest : List Value) :
    (overSublists (fun _ => body) open? false none consumed
        (v :: rest)).run
      = (sublistPass body open? v).andThen fun _ =>
        (overSublists (fun _ => body) open? false none (consumed + 1)
          rest).run := by
  rw [overSublists, sublistPass]
  refine (congrArg Passes.run (if_neg (Option.some_ne_none 0).symm)).trans ?_
  cases open? v with
  | error e => rfl
  | ok items =>
      simp only [orFail, Run.caught]
      cases hending : (body (.ofList items)).ending with
      | stopped why => simp only [Run.andThen, hending]
      | finished last => simp only [Run.andThen, hending]; rfl
      | escaped wholeLoop last =>
          cases wholeLoop with
          | true => exact absurd hending (hstays _ _)
          | false => rfl

/-- The result of such a loop is that of its passes one after the
other. -/
theorem overSublists_result
    (hstays : ∀ cursor last, (body cursor).ending ≠ .escaped true last)
    (consumed : Nat) (items : List Value) :
    (overSublists (fun _ => body) open? false none consumed
        items).run.result
      = items.foldr
          (fun v => joinedResult (sublistPass body open? v).result)
          (.ok []) := by
  induction items generalizing consumed with
  | nil => rfl
  | cons v rest ih =>
      rw [overSublists_cons hstays, Run.result_andThen, ih,
        List.foldr_cons]

end

/-- The result of passes over some sublists and then some more. -/
theorem foldr_joinedResult_append (f : Value → Except Failure Text)
    (xs ys : List Value) :
    (xs ++ ys).foldr (fun v => joinedResult (f v)) (.ok [])
      = joinedResult (xs.foldr (fun v => joinedResult (f v)) (.ok []))
          (ys.foldr (fun v => joinedResult (f v)) (.ok [])) := by
  induction xs with
  | nil => exact (joinedResult_nil _).symm
  | cons v xs ih =>
      rw [List.cons_append, List.foldr_cons, ih, List.foldr_cons,
        joinedResult_assoc]

/-- A loop over sublists with no limit, and with no escape in its body that
leaves the whole loop, comes over two lists one behind the other to what
it comes to over the first and, unless this is a failure, over the second
behind it: both texts, or the second failure with the first text before
what was put out so far. -/
theorem render_sublists_append (settings : Settings) {body : List Node}
    (hbody : leavesLoop body = false) (position : Nat)
    (xs ys : List Value) :
    let outcome (items : List Value) : Except Failure Text :=
      (render (.builtin settings)
        [.iteration body false ⟨[], ⟨true, false⟩, position⟩]
        [.list items]).result
    outcome (xs ++ ys) = joinedResult (outcome xs) (outcome ys) := by
  intro outcome
  let pass := renderAll (.builtin settings) [.sublists 0] body
  have houtcome (items : List Value) : outcome items = items.foldr
      (fun v =>
        joinedResult (sublistPass pass (openList position) v).result)
      (.ok []) := by
    have hpass (left : Nat) :
        renderAll (.builtin settings) [.sublists left] body = pass :=
      renderAll_alike _ body (hbody ▸ .sublists left 0 rfl)
    have hloop : outcome items = (overSublists
        (fun left => renderAll (.builtin settings) [.sublists left] body)
        (openList position) false none 0 items).run.result :=
      render_iteration_result _ _ _ _ _
    rw [hloop, funext hpass]
    exact overSublists_result (renderAll_stays hbody) 0 items
  rw [houtcome, houtcome, houtcome]
  exact foldr_joinedResult_append _ xs ys

/-- A first pass that is left at its end, a loop in the body that is left
whole, and a sublist that has nothing to skip. -/
theorem render_sublists_append_tooFew :
    let body : List Node :=
      [ .simple .skip ⟨[], {}, 3⟩, .literal ['a'] 5,
        .escape 1 ⟨[], {}, 6⟩,
        .iteration
          [ .simple .skip ⟨[], {}, 11⟩, .literal ['b'] 13,
            .escape 2 ⟨[], ⟨true, false⟩, 14⟩, .literal [','] 17 ]
          false ⟨[], ⟨true, false⟩, 8⟩,
        .literal [';'] 20 ]
    let outcome (items : List Value) : Except Failure Text :=
      (render .standard
        [.iteration body false ⟨[], ⟨true, false⟩, 0⟩]
        [.list items]).result
    let xs : List Value :=
      [ .list [.int 0],
        .list [.int 0, .list [.list [.int 1], .list [.int 2]], .int 9] ]
    let ys : List Value := [.list [.int 5], .list []]
    let e : RenderError := ⟨.exhausted 1 0, some 3, Kind.skip.name⟩
    leavesLoop body = false ∧ outcome xs = .ok (word "aab,b;")
      ∧ outcome ys = .error (.render e ['a'])
      ∧ outcome (xs ++ ys) = .error (.render e (word "aab,b;a")) := by
  intro body outcome xs ys e
  have hxs : outcome xs = .ok (word "aab,b;") := by with_unfolding_all rfl
  have hys : outcome ys = .error (.render e ['a']) := by
    with_unfolding_all rfl
  refine ⟨rfl, hxs, hys, ?_⟩
  refine (render_sublists_append .standard rfl 0 xs ys).trans ?_
  show joinedResult (outcome xs) (outcome ys) = _
  rw [hxs, hys]
  rfl

end TildeFormat
