import Depository.CommandLine.Report
import Depository.Proofs.Database.Addresses

/-!
# What a summary says of secrets

The summary of a configuration says the address of the database from its last at sign on. So it says
nothing of the password of the registry, of the key of the mail relay and of a password in the
credentials. A password in a parameter is said unless an at sign follows it.
-/

namespace Depository

open Database (Address schemes)

namespace Configuration

variable {c : Configuration}

/-- The same configuration with other secrets. -/
def withSecrets (c : Configuration) (password : Secret) (apiKey : Option Secret)
    (connection : Secret) : Configuration :=
  { c with
    registry := { c.registry with password := password }
    database := c.database.map fun d => { d with connectionString := connection }
    mail := { c.mail with apiKey := apiKey } }

/-- Two configurations that differ in nothing but the password of the registry, the key of the mail
relay and the passwords in the address of the database. -/
inductive SameButSecrets (c : Configuration) : Configuration → Prop where
  | intro {d : DatabaseSettings} {a b : Address} (password : Secret) (apiKey : Option Secret)
      (hd : c.database = some d) (ha : a.text = d.connectionString.exposed.toList)
      (hab : a.SameButPasswords b) :
      SameButSecrets c (c.withSecrets password apiKey ⟨String.ofList b.text⟩)

private theorem of_bind_eq_ok {α β : Type} {x : Except Failure α} {next : α → Except Failure β}
    {b : β} (h : (x >>= next) = .ok b) : ∃ a, x = .ok a ∧ next a = .ok b := by
  cases x with
  | error failure => cases h
  | ok a => exact ⟨a, rfl, h⟩

/-- What the loader hands out has no flaw. -/
private theorem flaw?_of_ofText {vars : Variables} {text : String} (h : ofText vars text = .ok c) :
    c.flaw? = none := by
  unfold ofText at h
  obtain ⟨described, -, h⟩ := of_bind_eq_ok h
  obtain ⟨overridden, -, h⟩ := of_bind_eq_ok h
  unfold checked at h
  split at h
  · cases h
  · next hnone =>
    cases h
    exact hnone

/-- The check asks of an address only for a scheme. -/
private theorem flaw?_withSecrets {d : DatabaseSettings} (hflaw : c.flaw? = none)
    (htarget : c.databaseTarget = .postgresql) (hd : c.database = some d) (b : Address) :
    (c.withSecrets c.registry.password c.mail.apiKey ⟨String.ofList b.text⟩).flaw? = none := by
  obtain ⟨happlication, hdatabase, hothers⟩ := flaw?_eq_none_iff.mp hflaw
  refine flaw?_eq_none_iff.mpr ⟨happlication, ?_, hothers⟩
  simp only [databaseFlaw?, htarget, hd] at hdatabase
  obtain ⟨-, -, hrest⟩ := DatabaseSettings.flaw?_eq_none_iff.mp hdatabase
  simp only [databaseFlaw?, withSecrets, htarget, hd, Option.map_some]
  refine DatabaseSettings.flaw?_eq_none_iff.mpr ⟨fun hempty => ?_, b.beginsWith_text, hrest⟩
  have hscheme := b.beginsWith_text
  simp only at hempty
  rw [hempty] at hscheme
  exact absurd hscheme (by decide)

end Configuration

namespace CommandLine

/-! ### What is said of an address -/

private theorem connectionHost_append (before after : List Char) :
    connectionHost (String.ofList (before ++ '@' :: after)) =
      connectionHost (String.ofList after) := by
  have hparts : Text.splitAt '@' (before ++ '@' :: after) =
      Text.splitAt '@' before ++ Text.splitAt '@' after := by
    simp only [Text.splitAt_eq_splitOn, List.splitOn_append_cons_self]
  have hsome : Text.splitAt '@' after ≠ [] := by
    rw [Text.splitAt_eq_splitOn]
    exact List.splitOn_ne_nil _ _
  have hlast : (Text.splitAt '@' (before ++ '@' :: after)).getLast? =
      (Text.splitAt '@' after).getLast? := by
    rw [hparts, List.getLast?_append_of_ne_nil _ hsome]
  obtain ⟨last, hafter⟩ := Option.isSome_iff_exists.mp (List.getLast?_isSome.mpr hsome)
  simp [connectionHost, Text.split, hlast, hafter]

private theorem connectionHost_of_notMem {cs : List Char} (h : '@' ∉ cs) :
    connectionHost (String.ofList cs) = String.ofList cs := by
  have hparts : Text.splitAt '@' cs = [cs] := by
    rw [Text.splitAt_eq_splitOn, List.splitOn_eq_singleton h]
  simp [connectionHost, Text.split, hparts]

private theorem connectionHost_eq_of_sameEnd {cs ds : List Char} (h : Address.SameEnd cs ds) :
    connectionHost (String.ofList cs) = connectionHost (String.ofList ds) := by
  rcases h with rfl | ⟨before, before', after, rfl, rfl, hat⟩
  · rfl
  · obtain ⟨front, last, rfl⟩ := List.append_of_mem hat
    rw [← List.append_assoc, ← List.append_assoc, connectionHost_append, connectionHost_append]

/-- What has no at sign behind it is said. -/
private theorem exists_connectionHost_eq (before : List Char) :
    ∃ lead, ∀ after, '@' ∉ after →
      connectionHost (String.ofList (before ++ after)) = String.ofList (lead ++ after) := by
  by_cases hat : '@' ∈ before
  · -- The last at sign of a text is the first one of the text backwards.
    obtain ⟨last, front, hreverse, hlast⟩ :=
      List.eq_append_cons_of_mem (List.mem_reverse.mpr hat)
    have hbefore : before = front.reverse ++ '@' :: last.reverse := by
      rw [← List.reverse_reverse before, hreverse]
      simp
    refine ⟨last.reverse, fun after hafter => ?_⟩
    rw [hbefore, List.append_assoc, List.cons_append, connectionHost_append]
    exact connectionHost_of_notMem (by simp [hlast, hafter])
  · exact ⟨before, fun after hafter => connectionHost_of_notMem (by simp [hat, hafter])⟩

/-! ### The whole summary -/

private theorem configurationSummary_withSecrets_iff {c : Configuration} {d : DatabaseSettings}
    (htarget : c.databaseTarget = .postgresql) (hd : c.database = some d) (password : Secret)
    (apiKey : Option Secret) (connection : Secret) :
    configurationSummary (c.withSecrets password apiKey connection) = configurationSummary c ↔
      connectionHost connection.exposed = connectionHost d.connectionString.exposed := by
  simp [configurationSummary, storeTitle, Configuration.withSecrets, htarget, hd]

private theorem exists_address {c : Configuration} (hflaw : c.flaw? = none)
    (htarget : c.databaseTarget = .postgresql) :
    ∃ d a, c.database = some d ∧ Address.text a = d.connectionString.exposed.toList := by
  obtain ⟨-, hdatabase, -⟩ := Configuration.flaw?_eq_none_iff.mp hflaw
  cases hd : c.database with
  | none => simp [Configuration.databaseFlaw?, htarget, hd] at hdatabase
  | some d =>
    simp only [Configuration.databaseFlaw?, htarget, hd] at hdatabase
    obtain ⟨-, hscheme, -⟩ := DatabaseSettings.flaw?_eq_none_iff.mp hdatabase
    have hprefix : ∃ scheme ∈ schemes, scheme.toList <+: d.connectionString.exposed.toList := by
      rcases hscheme with h | h
      · exact ⟨_, by decide, List.isPrefixOf_iff_prefix.mp h⟩
      · exact ⟨_, by decide, List.isPrefixOf_iff_prefix.mp h⟩
    obtain ⟨scheme, hmem, cs, hcs⟩ := hprefix
    obtain ⟨a, ha⟩ := Address.exists_text_eq hmem
    exact ⟨d, a, rfl, ha.trans hcs⟩

/-- A configuration from the loader that uses a database has the same summary as all configurations
without flaws that differ from it in nothing but secrets, exactly if an at sign follows each password
among the parameters of its address. -/
theorem summary_hides_secrets_iff {vars : Variables} {text : String} {c : Configuration}
    (hload : Configuration.ofText vars text = .ok c) (htarget : c.databaseTarget = .postgresql) :
    ∃ d a, c.database = some d ∧ Address.text a = d.connectionString.exposed.toList ∧
      ((∀ c', c'.flaw? = none → c.SameButSecrets c' →
          configurationSummary c' = configurationSummary c) ↔
        Address.Covered a.parameters) := by
  have hflaw := Configuration.flaw?_of_ofText hload
  obtain ⟨d, a, hd, ha⟩ := exists_address hflaw htarget
  refine ⟨d, a, hd, ha, ?_, ?_⟩
  · intro hsame
    by_contra hopen
    obtain ⟨before, after, hat, hother⟩ := Address.exists_other_password hopen
    obtain ⟨lead, hlead⟩ := exists_connectionHost_eq before
    -- Whatever password stands there is said, so that not all summaries are the same.
    have hsaid (value : List Char) (hvalue : '@' ∉ value) (hand : '&' ∉ value) :
        String.ofList (lead ++ (value ++ after)) =
          connectionHost d.connectionString.exposed := by
      obtain ⟨b, hab, hb⟩ := hother value hvalue hand
      have hsummary := hsame _ (Configuration.flaw?_withSecrets hflaw htarget hd b)
        (.intro _ _ hd ha hab)
      rw [configurationSummary_withSecrets_iff htarget hd, hb] at hsummary
      rw [← hsummary]
      exact (hlead (value ++ after) (by simp [hvalue, hat])).symm
    have hequal := (hsaid [] (by simp) (by simp)).trans (hsaid ['x'] (by decide) (by decide)).symm
    have hafter := List.append_cancel_left (String.ofList_injective hequal)
    exact absurd (congrArg List.length hafter) (by simp)
  · intro hcovered c' _ hc'
    cases hc' with
    | @intro d' a' b password apiKey hd' ha' hab =>
      cases hd.symm.trans hd'
      obtain rfl := Address.text_injective (ha.trans ha'.symm)
      rw [configurationSummary_withSecrets_iff htarget hd,
        ← connectionHost_eq_of_sameEnd (hab.sameEnd hcovered), ha, String.ofList_toList]

/-- A configuration that lists the settings of the registry in their order, and leaves the address of
the database to a variable. -/
def connectedText : String :=
  "database_target=\"postgresql\"\nregistry=[\"ezid\",\"http://ezid\",\"cairn\",\"pw\"]"

/-- The variable with the address of the database. -/
def connecting (address : String) : Variables := fun name =>
  if name = "CAIRN_POSTGRESQL_CONNECTION_STRING" then some address else none

/-- What is loaded then. -/
def connected (address : String) : Configuration where
  application := .default
  deployment := .development
  databaseTarget := .postgresql
  database := some (.ofConnection ⟨address⟩)
  identifiers := .default
  registry := ⟨.ezid, "http://ezid", "cairn", ⟨"pw"⟩, 30, true⟩
  index := .default
  notifications := .default
  mail := .default
  exports := .default
  logging := .default

theorem summary_hides_secrets_of_user :
    let c := connected "postgresql://cairn:pw@db/cairn"
    Configuration.ofText (connecting "postgresql://cairn:pw@db/cairn") connectedText = .ok c ∧
      ∀ c', c'.flaw? = none → c.SameButSecrets c' →
        configurationSummary c' = configurationSummary c := by
  intro c
  have hload : Configuration.ofText (connecting "postgresql://cairn:pw@db/cairn") connectedText =
      .ok c := by decide +kernel
  obtain ⟨d, a, hd, ha, hiff⟩ := summary_hides_secrets_iff hload rfl
  have hparts : a = ⟨"postgresql://", some "cairn:pw".toList, "db/cairn".toList, [], by decide,
      by decide, nofun, by decide, nofun⟩ := by
    cases hd
    exact Address.text_injective (ha.trans (by decide))
  refine ⟨hload, hiff.mpr ?_⟩
  rw [hparts]
  intro p rest hsuffix
  simp at hsuffix

/-- A password in a parameter is said. -/
theorem password_parameter_said :
    let c := connected "postgresql://db/cairn?password=one"
    let c' := connected "postgresql://db/cairn?password=two"
    Configuration.ofText (connecting "postgresql://db/cairn?password=one") connectedText = .ok c ∧
      Configuration.ofText (connecting "postgresql://db/cairn?password=two") connectedText =
        .ok c' ∧
      c.databaseTarget = .postgresql ∧ c.SameButSecrets c' ∧
      ("Store", "PostgreSQL at postgresql://db/cairn?password=one (pool 10)") ∈
        configurationSummary c ∧
      configurationSummary c ≠ configurationSummary c' := by
  intro c c'
  let a : Address := ⟨"postgresql://", none, "db/cairn".toList, ["password=one".toList],
    by decide, nofun, by decide, by decide, by decide⟩
  let b : Address := ⟨"postgresql://", none, "db/cairn".toList, ["password=two".toList],
    by decide, nofun, by decide, by decide, by decide⟩
  have hname : Address.IsPasswordName "password".toList := ⟨by decide, by decide +kernel⟩
  have hab : a.SameButPasswords b := ⟨rfl, rfl, rfl, .cons (.password hname) .nil⟩
  have ha : a.text = "postgresql://db/cairn?password=one".toList := by decide
  have hc' : c' = c.withSecrets ⟨"pw"⟩ none ⟨String.ofList b.text⟩ := by decide
  refine ⟨by decide +kernel, by decide +kernel, rfl, ?_, by decide, by decide⟩
  rw [hc']
  exact .intro _ _ rfl ha hab

end CommandLine

end Depository
