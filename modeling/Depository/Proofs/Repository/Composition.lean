import Depository.Repository.Updating

/-!
# Actions that are put together

What every call of a kind has, and composing actions keeps, every action made of such calls has.
So a property of making up and registering identifiers is shown for the calls alone.
-/

namespace Depository

open Depository.Action

/-- A property that actions without calls have and that composing actions keeps. -/
structure Action.Compositional (K : ∀ {α : Type}, Action α → Prop) : Prop where
  pure {α : Type} (a : α) : K (pure a : Action α)
  fail {α : Type} (e : Failure) : K (fail e : Action α)
  surroundings : K surroundings
  now : K now
  bind {α β : Type} {x : Action α} {f : α → Action β} (hx : K x) (hf : ∀ a, K (f a)) : K (x >>= f)
  outcome {α : Type} {x : Action α} (hx : K x) : K (outcome x)

namespace Repository

/-- A property that the calls have by which identifiers are made up. -/
structure GeneratingProperty (K : ∀ {α : Type}, Action α → Prop) : Prop
    extends Compositional K where
  freshLocalPart : K freshLocalPart
  nextSequence : K nextSequence
  isLocallyUnique (g : GlobalId) : K (isLocallyUnique g)

/-- A property that the calls have by which identifiers are made up and registered. -/
structure RegisteringProperty (K : ∀ {α : Type}, Action α → Prop) : Prop
    extends GeneratingProperty K where
  submit (target : RegistrationTarget) : K (submit target)

variable {K : ∀ {α : Type}, Action α → Prop}

/-! ### Generating -/

namespace GeneratingProperty

theorem nextLocal (h : GeneratingProperty K) (style : IdentifierStyle) :
    K (nextLocal style) := by
  cases style with
  | randomString => exact h.bind h.freshLocalPart fun _ => h.pure _
  | sequence =>
    refine h.bind h.nextSequence fun n => ?_
    cases n with
    | none => exact h.fail _
    | some n => exact h.pure _

theorem candidate (h : GeneratingProperty K) (protocol authority : String) :
    K (candidate protocol authority) := by
  refine h.bind h.surroundings fun _ => h.bind (h.nextLocal _) fun _ => ?_
  split
  · exact h.pure _
  · exact h.fail _

theorem firstUnused (h : GeneratingProperty K) {next : Action GlobalId} (hnext : K next)
    (tries : Nat) : K (firstUnused next tries) := by
  induction tries with
  | zero => exact h.pure _
  | succ tries ih =>
    refine h.bind hnext fun g => h.bind (h.isLocallyUnique g) fun unused => ?_
    split
    · exact h.pure _
    · exact ih

theorem generate (h : GeneratingProperty K) (existing : Option GlobalId) :
    K (generate existing) := by
  refine h.bind h.surroundings fun _ =>
    h.bind (h.firstUnused (h.candidate _ _) _) fun found => ?_
  cases found with
  | none => exact h.fail _
  | some _ => exact h.pure _

theorem firstUnusedNumber (h : GeneratingProperty K) (parent : GlobalId) (tries n : Nat) :
    K (firstUnusedNumber parent tries n) := by
  induction tries generalizing n with
  | zero => exact h.pure _
  | succ tries ih =>
    refine h.bind (h.isLocallyUnique _) fun unused => ?_
    split
    · exact h.pure _
    · exact ih (n + 1)

theorem generateBelow (h : GeneratingProperty K) (parent : GlobalId) (d : Dataset) :
    K (generateBelow parent d) := by
  refine h.bind h.surroundings fun _ => h.bind (h.firstUnusedNumber _ _ _) fun found => ?_
  cases found with
  | none => exact h.fail _
  | some _ => exact h.pure _

theorem generateForFile (h : GeneratingProperty K) (d : Dataset) : K (generateForFile d) := by
  refine h.bind h.surroundings fun _ => ?_
  dsimp only
  split
  · split
    · exact h.generateBelow _ d
    · exact h.fail _
  · exact h.generate _

theorem regenerate (h : GeneratingProperty K) (d : Dataset) (subject : Subject)
    (taken : GlobalId) : K (regenerate d subject taken) := by
  cases subject with
  | dataset => exact h.generate (some taken)
  | file _ => exact h.generateForFile d

end GeneratingProperty

/-! ### Registering -/

namespace RegisteringProperty

theorem registrationTarget (h : RegisteringProperty K) (d : Dataset) (subject : Subject)
    (id : GlobalId) : K (registrationTarget d subject id) := by
  have hyear : K (publicationYear d) := by
    unfold publicationYear
    split
    · exact h.pure _
    · exact h.bind h.now fun _ => h.pure _
  exact h.bind h.surroundings fun _ => h.bind hyear fun _ => h.pure _

theorem attempt (h : RegisteringProperty K) (subject : Subject) (made : Nat) (id : GlobalId)
    (d : Dataset) {retry : Action (RegistrationReport × Dataset)} (hretry : K retry) :
    K (attempt subject made id d retry) := by
  refine h.bind (h.registrationTarget d subject id) fun target =>
    h.bind (h.outcome (h.submit target)) fun answer => ?_
  cases answer with
  | error _ => exact h.pure _
  | ok answer =>
    dsimp only
    split
    · exact h.bind h.now fun _ => h.pure _
    · exact h.pure _
    · exact hretry

theorem registerFrom (h : RegisteringProperty K) (subject : Subject) (left made : Nat)
    (id : GlobalId) (d : Dataset) : K (registerFrom subject left made id d) := by
  induction left generalizing made id d with
  | zero => exact h.attempt _ _ _ _ (h.pure _)
  | succ left ih =>
    refine h.attempt _ _ _ _ (h.bind (h.outcome (h.regenerate d subject id)) fun next => ?_)
    cases next with
    | error _ => exact h.pure _
    | ok next => exact ih (made + 1) next (subject.assign next d)

theorem register (h : RegisteringProperty K) (subject : Subject) (d : Dataset) :
    K (register subject d) := by
  refine h.bind h.surroundings fun _ => ?_
  dsimp only
  split
  · exact h.registerFrom _ _ _ _ _
  · exact h.fail _

theorem registerDataset (h : RegisteringProperty K) (d : Dataset) : K (registerDataset d) := by
  unfold Repository.registerDataset
  split
  · exact h.register _ _
  · exact h.bind (h.generate none) fun _ => h.register _ _

theorem registerFile (h : RegisteringProperty K) (file : DataFileId) (d : Dataset) :
    K (registerFile file d) := by
  unfold Repository.registerFile
  split
  · exact h.fail _
  · split
    · exact h.register _ _
    · exact h.bind (h.generateForFile d) fun _ => h.register _ _

theorem registerIfDue (h : RegisteringProperty K) (d : Dataset) : K (registerIfDue d) := by
  refine h.bind h.surroundings fun _ => ?_
  split
  · refine h.bind (h.outcome (h.registerDataset d)) fun result => ?_
    cases result with
    | error _ => exact h.pure _
    | ok _ => exact h.pure _
  · exact h.pure _

end RegisteringProperty

/-! ### Staging -/

/-- Staging makes at most one call, which renews the fingerprint. -/
theorem stage_of_compositional (h : Compositional K)
    (hrecalculate : ∀ v files, K (recalculate v files)) (p : PreparedUpdate) : K (stage p) := by
  have hrenew (d : Dataset) : K (renewFingerprint d) := by
    unfold renewFingerprint
    split
    · exact h.pure d
    · exact h.bind (hrecalculate _ _) fun _ => h.pure _
  unfold stage
  dsimp only
  split
  · exact h.bind (hrenew _) fun _ => h.pure _
  · exact h.pure _

end Repository

end Depository
