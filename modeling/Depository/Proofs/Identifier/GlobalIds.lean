import Depository.Identifier.GlobalId
import Depository.Proofs.Text.Parts
import Mathlib.Data.Set.Function

/-!
# Persistent identifiers as texts

A text is read as a persistent identifier by its first colon and the first slash after that. So an
identifier is read back from its text as long as neither separator stands in a part before it, and
identifiers that were read can be compared by their texts.
-/

namespace Depository

namespace GlobalId

/-! ### Where a text is cut -/

/-- What stands before the first colon. -/
def protocolPart (s : String) : String := String.ofList (s.toList.takeWhile (· != ':'))

/-- What stands after the first colon. -/
def pathPart (s : String) : String := String.ofList ((s.toList.dropWhile (· != ':')).drop 1)

/-- What stands after the first colon, up to the first slash there. -/
def authorityPart (s : String) : String :=
  String.ofList ((pathPart s).toList.takeWhile (· != '/'))

/-- What stands after the first slash that follows the first colon. -/
def identifierPart (s : String) : String :=
  String.ofList (((pathPart s).toList.dropWhile (· != '/')).drop 1)

/-- A text with a colon and a slash after its first colon, where none of the three parts cut out is
blank. -/
structure Readable (s : String) : Prop where
  colon : ':' ∈ s.toList
  slash : '/' ∈ (pathPart s).toList
  protocol : Text.isBlankText (protocolPart s) = false
  authority : Text.isBlankText (authorityPart s) = false
  identifier : Text.isBlankText (identifierPart s) = false

/-- No part is blank, and neither separator stands in a part before it. -/
structure Canonical (id : GlobalId) : Prop where
  protocol : Text.isBlankText id.protocol = false
  authority : Text.isBlankText id.authority = false
  identifier : Text.isBlankText id.identifier = false
  colon : ':' ∉ id.protocol.toList
  slash : '/' ∉ id.authority.toList

theorem toList_text (id : GlobalId) :
    id.text.toList =
      id.protocol.toList ++ ':' :: (id.authority.toList ++ '/' :: id.identifier.toList) := by
  simp [text]

private theorem cutText?_eq_some_iff {s protocol authority identifier : String} :
    cutText? s = some (protocol, authority, identifier) ↔
      ∃ path, Text.cut? ':' s = some (protocol, path) ∧
        Text.cut? '/' path = some (authority, identifier) := by
  simp [cutText?, Option.bind_eq_some_iff]

private theorem cutText?_eq_parts_iff {s : String} {id : GlobalId} :
    cutText? s = some (id.protocol, id.authority, id.identifier) ↔
      id.text = s ∧ ':' ∉ id.protocol.toList ∧ '/' ∉ id.authority.toList := by
  rw [cutText?_eq_some_iff, ← String.toList_inj, toList_text]
  simp only [Text.cut?_eq_some_iff]
  constructor
  · rintro ⟨path, ⟨hs, hcolon⟩, hpath, hslash⟩
    exact ⟨by rw [hs, hpath], hcolon, hslash⟩
  · rintro ⟨hs, hcolon, hslash⟩
    refine ⟨String.ofList (id.authority.toList ++ '/' :: id.identifier.toList), ?_, ?_⟩
    · exact ⟨by rw [← hs, String.toList_ofList], hcolon⟩
    · exact ⟨String.toList_ofList, hslash⟩

private theorem cutText?_eq_cuts_iff {s protocol authority identifier : String} :
    cutText? s = some (protocol, authority, identifier) ↔
      ':' ∈ s.toList ∧ '/' ∈ (pathPart s).toList ∧ protocol = protocolPart s ∧
        authority = authorityPart s ∧ identifier = identifierPart s := by
  rw [cutText?_eq_some_iff]
  constructor
  · rintro ⟨path, hs, hpath⟩
    have hcolon := Text.mem_of_cut? hs
    obtain ⟨rfl, rfl⟩ := Prod.mk.inj (Option.some.inj ((Text.cut?_of_mem hcolon).symm.trans hs))
    have hslash := Text.mem_of_cut? hpath
    obtain ⟨rfl, rfl⟩ :=
      Prod.mk.inj (Option.some.inj ((Text.cut?_of_mem hslash).symm.trans hpath))
    exact ⟨hcolon, hslash, rfl, rfl, rfl⟩
  · rintro ⟨hcolon, hslash, rfl, rfl, rfl⟩
    exact ⟨pathPart s, Text.cut?_of_mem hcolon, Text.cut?_of_mem hslash⟩

/-! ### Reading -/

/-- A text is read as the identifier of the parts cut out of it, if none of them is blank. -/
private theorem ofText_eq_ok_iff_cutText? {s : String} {id : GlobalId} :
    ofText s = .ok id ↔ cutText? s = some (id.protocol, id.authority, id.identifier) ∧
      id.hasBlankPart = false := by
  unfold ofText ofParts
  split
  · next hcut => simp [hcut]
  · next protocol authority identifier hcut =>
    dsimp only
    rw [hcut]
    split
    · next hblank =>
      constructor
      · intro h
        cases h
      · rintro ⟨hparts, hfilled⟩
        obtain ⟨rfl, rfl, rfl⟩ := by simpa using hparts
        cases hblank.symm.trans hfilled
    · next hfilled =>
      constructor
      · intro h
        cases h
        exact ⟨rfl, by simpa using hfilled⟩
      · rintro ⟨hparts, -⟩
        obtain ⟨rfl, rfl, rfl⟩ := by simpa using hparts
        rfl

theorem hasBlankPart_eq_false_iff {id : GlobalId} :
    id.hasBlankPart = false ↔ Text.isBlankText id.protocol = false ∧
      Text.isBlankText id.authority = false ∧ Text.isBlankText id.identifier = false := by
  simp [hasBlankPart, and_assoc]

/-- A text is read as an identifier exactly if it is the text of that identifier and the separators
are found where they were put. -/
theorem ofText_eq_ok_iff {s : String} {id : GlobalId} :
    ofText s = .ok id ↔ id.text = s ∧ id.Canonical := by
  rw [ofText_eq_ok_iff_cutText?, cutText?_eq_parts_iff, hasBlankPart_eq_false_iff]
  constructor
  · rintro ⟨⟨htext, hcolon, hslash⟩, hprotocol, hauthority, hidentifier⟩
    exact ⟨htext, hprotocol, hauthority, hidentifier, hcolon, hslash⟩
  · rintro ⟨htext, h⟩
    exact ⟨⟨htext, h.colon, h.slash⟩, h.protocol, h.authority, h.identifier⟩

private theorem exists_ofText_iff {s : String} : (∃ id, ofText s = .ok id) ↔ Readable s := by
  constructor
  · rintro ⟨id, hid⟩
    obtain ⟨hcut, hfilled⟩ := ofText_eq_ok_iff_cutText?.mp hid
    obtain ⟨hcolon, hslash, hprotocol, hauthority, hidentifier⟩ := cutText?_eq_cuts_iff.mp hcut
    rw [hasBlankPart_eq_false_iff, hprotocol, hauthority, hidentifier] at hfilled
    exact ⟨hcolon, hslash, hfilled.1, hfilled.2.1, hfilled.2.2⟩
  · intro h
    refine ⟨⟨protocolPart s, authorityPart s, identifierPart s⟩, ?_⟩
    rw [ofText_eq_ok_iff_cutText?, cutText?_eq_cuts_iff, hasBlankPart_eq_false_iff]
    exact ⟨⟨h.colon, h.slash, rfl, rfl, rfl⟩, h.protocol, h.authority, h.identifier⟩

/-- Texts and identifiers stand for each other: a text is read exactly if it is cut into parts that
are not blank, and is then the text of what was read; the text of an identifier is read as that
identifier exactly if no part is blank and the separators stand in no earlier part; and different
identifiers that were read have different texts. -/
theorem texts_stand_for_identifiers :
    (∀ s : String, ((∃ id, ofText s = .ok id) ↔ Readable s) ∧
      ∀ id, ofText s = .ok id → id.text = s) ∧
    (∀ id : GlobalId, ofText id.text = .ok id ↔ Canonical id) ∧
    Set.InjOn text {id | ∃ s, ofText s = .ok id} := by
  refine ⟨fun s => ⟨exists_ofText_iff, fun id hid => (ofText_eq_ok_iff.mp hid).1⟩, ?_, ?_⟩
  · intro id
    rw [ofText_eq_ok_iff]
    simp
  · rintro id ⟨s, hid⟩ id' ⟨s', hid'⟩ htext
    obtain ⟨rfl, -⟩ := ofText_eq_ok_iff.mp hid
    obtain ⟨rfl, -⟩ := ofText_eq_ok_iff.mp hid'
    change id.text = id'.text at htext
    rw [htext, hid'] at hid
    exact (Except.ok.inj hid).symm

/-- The identifier of a file, with a slash of its own. -/
theorem file_identifier_read :
    let id : GlobalId := ⟨"doi", "10.5072", "FK2ABCDEF/3"⟩
    ofText "doi:10.5072/FK2ABCDEF/3" = .ok id ∧ Readable "doi:10.5072/FK2ABCDEF/3" ∧
      id.text = "doi:10.5072/FK2ABCDEF/3" := by
  intro id
  have hread : ofText "doi:10.5072/FK2ABCDEF/3" = .ok id := by decide +kernel
  obtain ⟨hreadable, htext⟩ := texts_stand_for_identifiers.1 "doi:10.5072/FK2ABCDEF/3"
  exact ⟨hread, hreadable.mp ⟨id, hread⟩, htext id hread⟩

end GlobalId

end Depository
