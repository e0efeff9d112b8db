import Roz.Core.FrameTree
import Roz.Lib.Ascent
import Roz.Lib.Run

/-!
# When a frame tree stays a tree

`set_root` and `add_frame` overwrite existing entries, and `add_frame` only checks that the
parent exists.  So a second root leaves the first one behind, and a frame can be put below
itself.  A run that does neither keeps a tree, in which every lookup succeeds
(`connected_run_iff`).
-/

namespace Roz.Core
open ExactFloat Ascent StepRun List Function
namespace FrameTree
variable (t : FrameTree)
def up (f : String) : Option (Option String) := (t.frames.lookup f).map FrameNode.parentId

lemma up_insert (frames : AList fun _ : String => FrameNode) (r : Option String) (f : String) (node : FrameNode) :
    up ⟨frames.insert f node, r⟩ = Function.update (up ⟨frames, r⟩) f (some node.parentId) := by
  funext g
  by_cases hgf : g = f
  · subst hgf
    simp [up]
  · simp [up, hgf]

lemma up_isSome (f : String) : (t.up f).isSome ↔ f ∈ t.frames := by
  rw [up, Option.isSome_map, AList.lookup_isSome]

/-- Following the parents from any frame ends at the root, without repetition. -/
def IsTree : Prop :=
  ∀ f ∈ t.frames, ∃ path, Climb t.up f path ∧ path.Nodup ∧ path.getLast? = t.root

section Lookup
variable {t : FrameTree}
lemma climb_lookup {f v} (h : t.up f = some v) :
    ∃ node, t.frames.lookup f = some node ∧ node.parentId = v := Option.map_eq_some_iff.1 h

variable {path : List String} {f current : String}
lemma climb_length_le (h : Climb t.up f path) : path.length ≤ t.frames.keys.length := by
  refine (subperm_of_subset h.nodup fun x hx => ?_).length_le
  exact (t.up_isSome x).1 (h.up_isSome hx)

lemma chainLoop_climb (frameId : String) (h : Climb t.up current path) :
    ∀ fuel visited chain, path.length ≤ fuel → (∀ x ∈ path, x ∉ visited) →
      t.chainLoop frameId fuel current visited chain = some (.ok (chain ++ path)) := by
  refine h.collect (t.chainLoop frameId) (some <| .ok ·) (fun _ f visited chain htop hnew => ?_)
    fun _ f parent visited chain hstep hnew => ?_
  · obtain ⟨node, hnode, hparent⟩ := climb_lookup htop
    simp [chainLoop, hnew, hnode, hparent]
  · obtain ⟨node, hnode, hparent⟩ := climb_lookup hstep
    simp [chainLoop, hnew, hnode, hparent]

lemma chainToRoot_climb (h : Climb t.up f path) : t.chainToRoot f = some (.ok path) :=
  chainLoop_climb f h _ [] [] (Nat.le_succ_of_le (climb_length_le h)) nofun

def mount (t : FrameTree) (result : Transform3D) (f : String) : Transform3D :=
  ((t.frames.lookup f).map fun node => node.staticTransform.compose result).getD result

lemma composeChainTo_climb {ancestor} (h : Climb t.up f path) (hmem : ancestor ∈ path) :
    ∃ T, t.composeChainTo f ancestor = some (.ok T) := by
  refine ⟨_, h.accumulate (t.composeLoop f ancestor) (some <| .ok ·) t.mount (fun fuel result => ?_)
    (fun fuel g parent result hne hstep => ?_) hmem _ _ (((takeWhile_sublist _).length_le).trans (climb_length_le h))⟩
  · unfold composeLoop
    rw [if_pos rfl]
  · obtain ⟨node, hnode, hparent⟩ := climb_lookup hstep
    rw [composeLoop, if_neg hne]
    simp [hnode, hparent, mount]

lemma IsTree.lookupTransform (h : t.IsTree) {source target} (hs : source ∈ t.frames)
    (ht : target ∈ t.frames) : ∃ T, t.lookupTransform source target = some (.ok T) := by
  unfold FrameTree.lookupTransform
  by_cases heq : source = target
  · exact ⟨_, if_pos heq⟩
  · obtain ⟨sourceChain, hsc, -, hslast⟩ := h source hs
    obtain ⟨targetChain, htc, -, htlast⟩ := h target ht
    rw [if_neg heq, chainToRoot_climb hsc, chainToRoot_climb htc]
    cases hfind : targetChain.find? fun f => f ∈ sourceChain with
    | none =>
      exfalso
      obtain ⟨r, hr⟩ := Option.isSome_iff_exists.1 (getLast?_isSome.2 htc.ne_nil)
      have hrs : r ∈ sourceChain := mem_of_getLast? (by rw [hslast, ← htlast, hr])
      exact find?_eq_none.1 hfind r (mem_of_getLast? hr) (decide_eq_true hrs)
    | some common =>
      have hcs : common ∈ sourceChain := by simpa using find?_some hfind
      obtain ⟨T1, hT1⟩ := composeChainTo_climb hsc hcs
      obtain ⟨T2, hT2⟩ := composeChainTo_climb htc (mem_of_find?_eq_some hfind)
      exact ⟨T1.inverse.compose T2, by simp only [hfind, hT1, hT2]⟩

end Lookup

/-! ## Operations -/

inductive FrameOp where
  | setRoot (frameId : String) (source : FrameSource)
  | addFrame (frameId parentId : String) (transform : Transform3D) (source : FrameSource)
  | updateTransform (frameId : String) (transform : Transform3D)
  | overlayTransform (frameId : String) (transform : Transform3D) (source : Option FrameSource)

variable (t : FrameTree)
def apply : FrameOp → FrameTree
  | .setRoot f source => t.setRoot f source
  | .addFrame f p transform source => (t.addFrame f p transform source).toOption.getD t
  | .updateTransform f transform => (t.updateTransform f transform).toOption.getD t
  | .overlayTransform f transform source => (t.overlayTransform f transform source).toOption.getD t

def run (ops : List FrameOp) : FrameTree := ops.foldl apply new

def onChain (f p : String) : Bool :=
  match t.chainToRoot p with
  | some (.ok chain) => decide (f ∈ chain)
  | _ => false

/-- The steps that keep a tree: no second root, and no frame below itself. -/
def Allowed : FrameOp → Prop
  | .setRoot f _ => t.root = none ∨ t.root = some f
  | .addFrame f p _ _ => p ∈ t.frames → t.onChain f p = false
  | .updateTransform _ _ | .overlayTransform _ _ _ => True

def Rooted : Prop :=
  match t.root with
  | none => ∀ f, t.up f = none
  | some r => (t.up r).isSome

section Operations
variable {t : FrameTree} {p f : String}
lemma up_update_self {node} (h : t.frames.lookup f = some node) {node'}
    (hp : node'.parentId = node.parentId) : up { t with frames := t.frames.insert f node' } = t.up := by
  have hself : t.up f = some node'.parentId := by rw [up, h, hp]; rfl
  rw [show up { t with frames := t.frames.insert f node' } = _ from up_insert t.frames t.root f node',
    update_eq_self_iff]
  exact hself.symm

lemma apply_cases (t : FrameTree) (op : FrameOp) :
    (∃ f source, op = .setRoot f source ∧ (t.apply op).up = Function.update t.up f (some none) ∧
      (t.apply op).root = some f) ∨ (∃ f p transform source, op = .addFrame f p transform source ∧ p ∈ t.frames ∧
      (t.apply op).up = Function.update t.up f (some (some p)) ∧ (t.apply op).root = t.root) ∨
    ((t.apply op).up = t.up ∧ (t.apply op).root = t.root ∧ t.Allowed op) := by
  cases op with
  | setRoot f source => exact .inl ⟨f, source, rfl, up_insert t.frames _ f _, rfl⟩
  | addFrame f p transform source =>
    by_cases hp : p ∈ t.frames
    · refine .inr (.inl ⟨f, p, transform, source, rfl, hp, ?_, ?_⟩)
      · simp only [apply, addFrame, if_pos hp]
        exact up_insert t.frames _ f _
      · simp [apply, addFrame, hp, Except.toOption]
    · refine .inr (.inr ?_)
      simp [apply, addFrame, hp, Except.toOption, Allowed]
  | updateTransform f transform =>
    refine .inr (.inr ?_)
    simp only [apply, updateTransform, Allowed]
    split
    · exact ⟨rfl, rfl, trivial⟩
    · next node hnode =>
      split
      · exact ⟨rfl, rfl, trivial⟩
      · exact ⟨up_update_self hnode rfl, rfl, trivial⟩
  | overlayTransform f transform source =>
    refine .inr (.inr ?_)
    simp only [apply, overlayTransform, Allowed]
    split
    · exact ⟨rfl, rfl, trivial⟩
    · next node hnode => exact ⟨up_update_self hnode rfl, rfl, trivial⟩

lemma rooted_apply (op : FrameOp) (h : t.Rooted) : (t.apply op).Rooted := by
  unfold Rooted at h ⊢
  rcases apply_cases t op with ⟨f, _, -, hup, hroot⟩ | ⟨f, p, _, _, -, hp, hup, hroot⟩ | ⟨hup, hroot, -⟩
  · rw [hroot, hup]
    simp
  · rw [hroot, hup]
    cases hr : t.root with
    | none =>
      rw [hr] at h
      have := (t.up_isSome p).2 hp
      rw [h p] at this
      cases this
    | some r =>
      rw [hr] at h
      by_cases hrf : r = f
      · simp [hrf]
      · simpa [hrf] using h
  · rw [hroot, hup]
    exact h

lemma isTree_iff : t.IsTree ↔ ∀ f, (t.up f).isSome → ∃ path, Climb t.up f path ∧ path.getLast? = t.root := by
  refine forall_congr' fun f => ?_
  rw [t.up_isSome f]
  refine imp_congr_right fun _ => exists_congr fun path => ?_
  exact ⟨fun ⟨h, _, hlast⟩ => ⟨h, hlast⟩, fun ⟨h, hlast⟩ => ⟨h, h.nodup, hlast⟩⟩

lemma up_of_root (h : t.IsTree) {r} (hr : t.root = some r) (hmem : (t.up r).isSome) : t.up r = some none := by
  obtain ⟨path, hpath, hlast⟩ := isTree_iff.1 h r hmem
  exact hpath.getLast_up r (hlast.trans hr)

variable {t' : FrameTree}
lemma isTree_setRoot_iff (hrooted : t.Rooted) (h : t.IsTree)
    (hup : t'.up = Function.update t.up f (some none)) (hroot : t'.root = some f) :
    t'.IsTree ↔ t.root = none ∨ t.root = some f := by
  rw [isTree_iff, hup, hroot]
  constructor
  · intro htree
    by_contra hother
    rw [not_or] at hother
    obtain ⟨r, hr⟩ := Option.ne_none_iff_exists'.1 hother.1
    have hrf : r ≠ f := fun heq => hother.2 (by rw [hr, heq])
    rw [Rooted, hr] at hrooted
    -- the old root still has no parent, so its chain ends there
    have hold : Function.update t.up f (some none) r = some none := by
      rw [update_of_ne hrf]
      exact up_of_root h hr hrooted
    obtain ⟨path, hpath, hlast⟩ := htree r (by rw [hold]; rfl)
    rw [hpath.unique (.top hold)] at hlast
    simp only [getLast?_singleton, Option.some.injEq] at hlast
    exact hrf hlast
  · intro hok g hg
    by_cases hgf : g = f
    · subst hgf
      exact ⟨[g], .top (update_self ..), rfl⟩
    · rw [update_of_ne hgf] at hg
      rcases hok with hnone | hsome
      · rw [Rooted, hnone] at hrooted
        rw [hrooted g] at hg
        cases hg
      · obtain ⟨path, hpath, hlast⟩ := isTree_iff.1 h g hg
        rw [hsome] at hlast
        have hsame : Function.update t.up f (some none) = t.up := by
          rw [update_eq_self_iff]
          exact (hpath.getLast_up f hlast).symm
        rw [hsame]
        exact ⟨path, hpath, hlast⟩

lemma isTree_addFrame_iff (h : t.IsTree) (hp : p ∈ t.frames)
    (hup : t'.up = Function.update t.up f (some (some p))) (hroot : t'.root = t.root) :
    t'.IsTree ↔ t.onChain f p = false := by
  obtain ⟨path, hpath, -, hlast⟩ := h p hp
  rw [onChain, chainToRoot_climb hpath, decide_eq_false_iff_not, isTree_iff, hup, hroot]
  have hf : Function.update t.up f (some (some p)) f = some (some p) := update_self ..
  constructor
  · intro htree
    obtain ⟨q, hq, -⟩ := htree f (by rw [hf]; rfl)
    cases hq with
    | top htop => rw [hf] at htop; cases htop
    | step hstep rest =>
      rw [hf] at hstep
      cases hstep
      -- the chain of the parent avoids f, so it was its chain before
      have hnot := Climb.not_mem_of_step hf rest
      have hback := rest.update hnot (t.up f)
      rw [update_idem, update_eq_self] at hback
      rwa [hpath.unique hback]
  · intro hnot g hg
    have hfclimb : Climb (Function.update t.up f (some (some p))) f (f :: path) :=
      .step hf (hpath.update hnot _)
    have hflast : (f :: path).getLast? = t.root := by rw [getLast?_cons_of_ne_nil hpath.ne_nil, hlast]
    by_cases hgf : g = f
    · subst hgf
      exact ⟨_, hfclimb, hflast⟩
    · rw [update_of_ne hgf] at hg
      obtain ⟨pg, hpg, hglast⟩ := isTree_iff.1 h g hg
      obtain ⟨q, hq, hqlast⟩ := hpg.update_of_climb hfclimb
      refine ⟨q, hq, ?_⟩
      rcases hqlast with hq | hq
      · exact hq.trans hglast
      · exact hq.trans hflast

lemma isTree_apply_iff (hrooted : t.Rooted) (h : t.IsTree) (op : FrameOp) : (t.apply op).IsTree ↔ t.Allowed op := by
  rcases apply_cases t op with ⟨f, _, rfl, hup, hroot⟩ | ⟨f, p, _, _, rfl, hp, hup, hroot⟩ | ⟨hup, hroot, hok⟩
  · exact isTree_setRoot_iff hrooted h hup hroot
  · rw [isTree_addFrame_iff h hp hup hroot]
    exact ⟨fun hc _ => hc, fun hc => hc hp⟩
  · refine ⟨fun _ => hok, fun _ => ?_⟩
    rw [isTree_iff, hup, hroot]
    exact isTree_iff.1 h

end Operations

/-! ## Runs -/

variable (t : FrameTree)
def Connected : Prop :=
  t.IsTree ∧ ∀ source ∈ t.frames, ∀ target ∈ t.frames, ∃ T, t.lookupTransform source target = some (.ok T)

lemma connected_iff : t.Connected ↔ t.IsTree :=
  ⟨fun h => h.1, fun h => ⟨h, fun _ hs _ ht => h.lookupTransform hs ht⟩⟩

variable (ops : List FrameOp)
lemma runFrom_apply : runFrom (fun t op => .next (apply t op)) new ops = .next (run ops) :=
  runFrom_total apply ops new

lemma run_snoc (op : FrameOp) : run (ops ++ [op]) = (run ops).apply op := by simp [run]

lemma rooted_new : new.Rooted := fun _ => rfl

lemma rooted_run : (run ops).Rooted := by
  refine run_invariant Rooted ?_ rooted_new (run ops) (runFrom_apply ops)
  intro t op t' ht hstep
  cases hstep
  exact rooted_apply op ht

lemma isTree_new : new.IsTree := fun f hf => absurd hf (AList.notMem_empty f)

theorem connected_run_iff (ops : List FrameOp) : (∀ pre, pre <+: ops → (run pre).Connected) ↔
      EveryStep (fun t op => .next (apply t op)) new Allowed ops := by
  simp only [connected_iff]
  constructor
  · intro h pre op post t heq hrun
    rw [runFrom_apply] at hrun
    cases hrun
    have hbefore := h pre ⟨op :: post, heq.symm⟩
    have hafter := h (pre ++ [op]) ⟨post, by rw [heq]; simp⟩
    rw [run_snoc] at hafter
    exact (isTree_apply_iff (rooted_run pre) hbefore op).1 hafter
  · rintro h pre ⟨post, heq⟩
    have hpre := h.of_append heq.symm
    refine (hpre.invariant (fun t => t.Rooted ∧ t.IsTree) ?_ ⟨rooted_new, isTree_new⟩ pre (run pre)
      (runFrom_apply pre)).2
    rintro t op t' ⟨hrooted, htree⟩ hok hstep
    cases hstep
    exact ⟨rooted_apply op hrooted, (isTree_apply_iff hrooted htree op).2 hok⟩

/-- An arm is added below the world, and the world below the arm: no lookup ends well. -/
theorem world_below_arm : let t := run [.setRoot "world" .static, .addFrame "arm" "world" .identity .dynamic,
      .addFrame "world" "arm" .identity .dynamic]
    "world" ∈ t.frames ∧ "arm" ∈ t.frames ∧
    t.lookupTransform "world" "arm" = some (.error (.cycleDetected "world")) ∧ ¬ t.Connected := by
  have hlookup : (run [.setRoot "world" .static, .addFrame "arm" "world" .identity .dynamic,
      .addFrame "world" "arm" .identity .dynamic]).lookupTransform "world" "arm" =
      some (.error (.cycleDetected "world")) := by decide
  refine ⟨by decide, by decide, hlookup, fun h => ?_⟩
  obtain ⟨T, hT⟩ := h.2 "world" (by decide) "arm" (by decide)
  rw [hlookup] at hT
  cases hT

end FrameTree
end Roz.Core
