import Depository.Configuration.Flaw
import Depository.Proofs.Identifier.GlobalIds
import Depository.Proofs.Repository.Draws
import Depository.Proofs.Store.Lookups

/-!
# Generated identifiers as texts

An identifier that is made up for a dataset gets its protocol and its authority from the settings.
The check of the settings leaves no colon in the protocol, but it lets any authority pass that is
not blank. Such an identifier is read back from its text exactly if its authority has no slash.
-/

namespace Depository

private theorem IdentifierSettings.colon_notMem_of_mem_protocols {protocol : String}
    (h : protocol ∈ protocols) : ':' ∉ protocol.toList := by
  have hall : ∀ p ∈ protocols, ':' ∉ p.toList := by decide
  exact hall protocol h

private theorem GlobalId.hasBlankPart_of_ofParts {protocol authority identifier : String}
    {id : GlobalId}
    (h : ofParts protocol authority identifier = .ok id) : id.hasBlankPart = false := by
  unfold ofParts at h
  dsimp only at h
  split at h
  · cases h
  · next hfilled =>
    cases h
    simpa using hfilled

namespace Repository

open Depository.Action

variable {s : Surroundings} {w v : World}

/-! ### No part is blank -/

theorem returns_candidate (protocol authority : String) :
    Returns (fun id => id.hasBlankPart = false) (candidate protocol authority) := by
  refine Returns.bind fun _ => Returns.bind fun _ => ?_
  split
  · next id hid => exact returns_pure (GlobalId.hasBlankPart_of_ofParts hid)
  · exact returns_fail _

theorem returns_firstUnused {next : Action GlobalId} {Q : GlobalId → Prop} (h : Returns Q next)
    (tries : Nat) : Returns (fun found => ∀ id ∈ found, Q id) (firstUnused next tries) := by
  induction tries with
  | zero => exact returns_pure (by simp)
  | succ tries ih =>
    refine h.then fun id hid => Returns.bind fun unused => ?_
    split
    · exact returns_pure (by simpa using hid)
    · exact ih

theorem returns_generate (existing : Option GlobalId) :
    Returns (fun id => id.hasBlankPart = false) (generate existing) := by
  refine Returns.bind fun settings => ?_
  refine (returns_firstUnused (returns_candidate _ _) _).then fun found hfound => ?_
  cases found with
  | none => exact returns_fail _
  | some id => exact returns_pure (hfound id rfl)

/-! ### What is read back -/

/-- An identifier made up under settings that were accepted is used by no dataset and no file of the
store, begins with the shoulder, and is read back from its text exactly if the authority of the
settings has no slash. -/
theorem generated_identifier_reads_back_iff {id : GlobalId}
    (haccepted : s.identifiers.flaw? = none)
    (h : (generate none).run s w = (.ok id, v)) :
    (∀ dataset d, v.store.findDataset? dataset = some d →
        d.globalId ≠ some id ∧ id ∉ d.fileIdentifiers) ∧
      s.identifiers.shoulder.toList <+: id.identifier.toList ∧
      (GlobalId.ofText id.text = .ok id ↔ '/' ∉ s.identifiers.authority.toList) := by
  obtain ⟨hprotocol, -⟩ := IdentifierSettings.flaw?_eq_none_iff.mp haccepted
  obtain ⟨n, -, -, hid⟩ := of_run_generate h
  have hunused : v.store.isLocallyUnique id = true := by
    rw [isLocallyUnique_of_numbering ((generating_confined.generate none).allows h)]
    exact unused_of_run_generate h
  obtain ⟨hprotocol', hauthority', hidentifier'⟩ :=
    GlobalId.hasBlankPart_eq_false_iff.mp (returns_generate none s w id v h)
  refine ⟨?_, ?_, ?_⟩
  · intro dataset d hd
    have hother := Store.isLocallyUnique_iff.mp hunused dataset d hd
    have hnot : ¬ (d.globalId = some id ∨ id ∈ d.fileIdentifiers) := by
      rw [← Store.uses_eq_true_iff, hother]
      exact Bool.false_ne_true
    exact not_or.mp hnot
  · rw [hid, drawnIdentifier, String.toList_append]
    exact List.prefix_append _ _
  · rw [GlobalId.ofText_eq_ok_iff]
    have hauthority : id.authority = s.identifiers.authority := by rw [hid]; rfl
    have hcolon : ':' ∉ id.protocol.toList := by
      rw [hid]
      exact IdentifierSettings.colon_notMem_of_mem_protocols hprotocol
    constructor
    · rintro ⟨-, hcanonical⟩
      rw [← hauthority]
      exact hcanonical.slash
    · intro hslash
      rw [← hauthority] at hslash
      exact ⟨rfl, hprotocol', hauthority', hidentifier', hcolon, hslash⟩

/-- Numbers of the sequence below an authority. -/
def numbersBelow (authority : String) : Surroundings :=
  { calmSurroundings with
    identifiers := { IdentifierSettings.default with
      authority := authority
      style := "storedProcGenerated" } }

theorem generated_identifier_reads_back_of_number :
    (numbersBelow "10.5072").identifiers.flaw? = none ∧
      ∃ v, (generate none).run (numbersBelow "10.5072") emptyWorld =
          (.ok ⟨"doi", "10.5072", "FK21"⟩, v) ∧
        GlobalId.ofText "doi:10.5072/FK21" = .ok ⟨"doi", "10.5072", "FK21"⟩ := by
  have hrun : ((generate none).run (numbersBelow "10.5072") emptyWorld).1 =
      .ok ⟨"doi", "10.5072", "FK21"⟩ := by decide +kernel
  have haccepted : (numbersBelow "10.5072").identifiers.flaw? = none := by decide
  obtain ⟨-, -, hread⟩ := generated_identifier_reads_back_iff haccepted (Prod.ext hrun rfl)
  exact ⟨haccepted, _, Prod.ext hrun rfl, hread.mpr (by decide)⟩

/-- An authority with a slash is accepted, but the text of what is made up below it is read with a
shorter authority and a longer identifier. -/
theorem generated_identifier_read_otherwise :
    (numbersBelow "10.5072/A").identifiers.flaw? = none ∧
      ∃ v, (generate none).run (numbersBelow "10.5072/A") emptyWorld =
          (.ok ⟨"doi", "10.5072/A", "FK21"⟩, v) ∧
        GlobalId.ofText (GlobalId.text ⟨"doi", "10.5072/A", "FK21"⟩) =
          .ok ⟨"doi", "10.5072", "A/FK21"⟩ ∧
        (⟨"doi", "10.5072", "A/FK21"⟩ : GlobalId) ≠ ⟨"doi", "10.5072/A", "FK21"⟩ := by
  have hrun : ((generate none).run (numbersBelow "10.5072/A") emptyWorld).1 =
      .ok ⟨"doi", "10.5072/A", "FK21"⟩ := by decide +kernel
  exact ⟨by decide, _, Prod.ext hrun rfl, by decide +kernel, by decide⟩

end Repository

end Depository
