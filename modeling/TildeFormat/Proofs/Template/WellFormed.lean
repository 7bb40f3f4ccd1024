/-
Well-formed trees: those that stand for a template. Literals are not
empty, have no tilde and do not touch; clauses are ones the registry
allows; a loop has something in its body and a justification at least
one segment; an escape knows how many constructs are around it and is
inside at least one. There is no group, which no template leaves.

An escape that leaves a whole loop has to stand directly in the body of
a loop over sublists, so besides the number of constructs around them
the nodes of a sequence are told whether it is such a body.
-/
import TildeFormat.Proofs.Directive.Admission
import TildeFormat.Template.Tree

namespace TildeFormat

/-- Literal text. -/
def Node.isLiteral : Node → Bool
  | .literal _ _ => true
  | _ => false

/-- The sequence starts with literal text. -/
def startsLiteral (nodes : List Node) : Bool :=
  nodes.head?.any Node.isLiteral

mutual

/-- A well-formed node with `depth` constructs around it; `direct` when
it stands directly in the body of a loop over sublists. -/
def Node.WellFormed (registry : Registry) (depth : Nat) (direct : Bool) :
    Node → Prop
  | .literal t _ => t ≠ [] ∧ .scalar '~' ∉ t
  | .simple kind clause => registry.Allows kind.letter clause
  | .iteration body _ clause =>
    registry.Allows Shape.iteration.opener clause ∧ body ≠ []
      ∧ WellFormed registry (depth + 1) clause.modifiers.colon body
  | .justification segments clause =>
    registry.Allows Shape.justification.opener clause ∧ segments ≠ []
      ∧ SegmentsWellFormed registry (depth + 1) segments
  | .escape d clause =>
    registry.Allows '^' clause ∧ d = depth ∧ 0 < depth
      ∧ (clause.modifiers.colon = true → direct = true)
  | .group _ => False

/-- Well-formed nodes, no two literals side by side. -/
def WellFormed (registry : Registry) (depth : Nat) (direct : Bool) :
    List Node → Prop
  | [] => True
  | node :: rest =>
    node.WellFormed registry depth direct
      ∧ (node.isLiteral = true → startsLiteral rest = false)
      ∧ WellFormed registry depth direct rest

/-- Well-formed segments. -/
def SegmentsWellFormed (registry : Registry) (depth : Nat) :
    List (List Node) → Prop
  | [] => True
  | segment :: rest =>
    WellFormed registry depth false segment
      ∧ SegmentsWellFormed registry depth rest

end

variable {registry : Registry} {depth : Nat} {direct : Bool}

/-- No literal goes on behind a sequence: it ends with none, or what
stands behind it does not start with one. -/
def Parted (nodes rest : List Node) : Prop :=
  nodes.getLast?.any Node.isLiteral = true → startsLiteral rest = false

/-- A sequence is well formed when it is in two parts, if no literals
touch between them. -/
theorem wellFormed_append_iff {nodes rest : List Node} :
    WellFormed registry depth direct (nodes ++ rest)
      ↔ WellFormed registry depth direct nodes
        ∧ WellFormed registry depth direct rest
        ∧ Parted nodes rest := by
  induction nodes with
  | nil =>
      show WellFormed _ _ _ rest ↔ _
      constructor
      · exact fun h => ⟨trivial, h, nofun⟩
      · exact fun h => h.2.1
  | cons node nodes ih =>
      show node.WellFormed _ _ _ ∧ _ ∧ WellFormed _ _ _ (nodes ++ rest)
        ↔ (node.WellFormed _ _ _ ∧ _ ∧ WellFormed _ _ _ nodes) ∧ _ ∧ _
      cases nodes with
      | nil =>
          constructor
          · exact fun ⟨hnode, happart, hrest⟩ =>
              ⟨⟨hnode, fun _ => rfl, trivial⟩, hrest, happart⟩
          · exact fun ⟨⟨hnode, _, _⟩, hrest, happart⟩ =>
              ⟨hnode, happart, hrest⟩
      | cons next nodes =>
          have hlast : Parted (node :: next :: nodes) rest
              ↔ Parted (next :: nodes) rest := by
            rw [Parted, Parted, List.getLast?_cons_cons]
          rw [ih, hlast]
          constructor
          · exact fun ⟨hnode, happart, hnodes, hrest⟩ =>
              ⟨⟨hnode, happart, hnodes⟩, hrest⟩
          · exact fun ⟨⟨hnode, happart, hnodes⟩, hrest⟩ =>
              ⟨hnode, happart, hnodes, hrest⟩

/-- One more node that is no literal. -/
theorem WellFormed.concat {nodes : List Node} {node : Node}
    (h : WellFormed registry depth direct nodes)
    (hnode : node.WellFormed registry depth direct)
    (hliteral : node.isLiteral = false) :
    WellFormed registry depth direct (nodes ++ [node]) :=
  wellFormed_append_iff.mpr
    ⟨h, ⟨hnode, fun _ => rfl, trivial⟩, fun _ => hliteral⟩

theorem segmentsWellFormed_append {segments rest : List (List Node)}
    (h : SegmentsWellFormed registry depth segments)
    (hrest : SegmentsWellFormed registry depth rest) :
    SegmentsWellFormed registry depth (segments ++ rest) := by
  induction segments with
  | nil => exact hrest
  | cons segment segments ih => exact ⟨h.1, ih h.2⟩

end TildeFormat
