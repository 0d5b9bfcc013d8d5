import UnitLinker.Files.Tree
import UnitLinker.Table

/-!
# What following a path leads to

Whatever a path leads to is in the tree, so the content of a file that was read is
in the listing of the tree. There are finitely many such contents.
-/

namespace UnitLinker.Files

open Binary (Bytes)

/-- Everything in one of the entries of a directory is in its listing. -/
theorem Node.mem_listingOf {name : String} {child : Node} {content : Option Bytes}
    {entries : List (String × Node)} (member : (name, child) ∈ entries)
    (below : ∃ place, (place, content) ∈ child.listing) :
    ∃ place, (place, content) ∈ listingOf entries := by
  induction entries with
  | nil => cases member
  | cons entry rest ih =>
    obtain ⟨first, node⟩ := entry
    rw [listingOf]
    rcases List.mem_cons.1 member with same | later
    · cases same
      obtain ⟨place, inside⟩ := below
      exact ⟨name :: place, List.mem_append_left _ (List.mem_map.2 ⟨_, inside, rfl⟩)⟩
    · obtain ⟨place, inside⟩ := ih later
      exact ⟨place, List.mem_append_right _ inside⟩

namespace Tree

/-- Everything from a node downwards is in the listing of the tree. -/
def Holds (tree : Tree) (node : Node) : Prop :=
  ∀ content, (∃ place, (place, content) ∈ node.listing) → ∃ place, (place, content) ∈ tree.listing

theorem holds_child {tree : Tree} {node child : Node} {name : String} (holds : tree.Holds node)
    (found : node.child? name = some child) : tree.Holds child := by
  intro content below
  apply holds
  cases node with
  | file stored => cases found
  | directory entries =>
    obtain ⟨place, inside⟩ := Node.mem_listingOf (Table.mem_of_lookup_eq_some found) below
    exact ⟨place, by rw [Node.listing]; exact List.mem_cons_of_mem _ inside⟩

/-- The nodes at a position and above it are in the tree. -/
def Reaches (tree : Tree) (position : Position) : Prop :=
  ∀ node ∈ position.node :: position.above, tree.Holds node

theorem reaches_top (tree : Tree) : tree.Reaches tree.top := by
  intro node member content below
  cases List.mem_singleton.1 member
  exact below

theorem reaches_follow {tree : Tree} {position next : Position} {segment : String}
    (reaches : tree.Reaches position) (followed : position.follow segment = .ok next) :
    tree.Reaches next := by
  unfold Position.follow at followed
  split at followed
  · cases followed
  · split at followed
    · cases followed
      exact reaches
    · split at followed
      · split at followed
        · rename_i parent above _ names aboveEq namesEq
          cases followed
          intro node member
          exact reaches node (List.mem_cons_of_mem _ (by rw [aboveEq]; exact member))
        · cases followed
          exact reaches
      · split at followed
        · cases followed
        · split at followed
          · rename_i child found
            cases followed
            intro node member
            rcases List.mem_cons.1 member with rfl | above
            · exact holds_child (reaches _ List.mem_cons_self) found
            · exact reaches node above
          · cases followed

theorem reaches_followAll {tree : Tree} {position next : Position} {segments : List String}
    (reaches : tree.Reaches position) (followed : position.followAll segments = .ok next) :
    tree.Reaches next := by
  unfold Position.followAll at followed
  induction segments generalizing position with
  | nil =>
    cases followed
    exact reaches
  | cons segment rest ih =>
    rw [List.foldlM_cons] at followed
    cases first : position.follow segment with
    | error error =>
      rw [first] at followed
      cases followed
    | ok middle =>
      rw [first] at followed
      exact ih (reaches_follow reaches first) followed

theorem reaches_resolve {tree : Tree} {path : String} {position : Position}
    (resolved : tree.resolve path = .ok position) : tree.Reaches position := by
  unfold resolve at resolved
  cases checked : checkPath path with
  | error error =>
    rw [checked] at resolved
    cases resolved
  | ok _ =>
    rw [checked] at resolved
    exact reaches_followAll (reaches_top tree) resolved

/-- The content of a file that was read is in the listing of the tree. -/
theorem mem_listing_of_read {tree : Tree} {path : String} {content : Bytes}
    (result : tree.read path = .ok content) : ∃ place, (place, some content) ∈ tree.listing := by
  unfold read at result
  cases resolved : tree.resolve path with
  | error error =>
    rw [resolved] at result
    cases result
  | ok position =>
    rw [resolved] at result
    have holds := reaches_resolve resolved position.node List.mem_cons_self
    cases node : position.node with
    | directory entries => simp [bind, Except.bind, node, throw, throwThe, MonadExceptOf.throw] at result
    | file stored =>
      simp only [bind, Except.bind, node, pure, Except.pure, Except.ok.injEq] at result
      subst result
      rw [node] at holds
      exact holds (some stored) ⟨[], by simp [Node.listing]⟩

end Tree

end UnitLinker.Files
