import Depository.Database.ConnectionUrl
import Depository.Proofs.Text.Parts
import Mathlib.Data.List.Forall2

/-!
# Addresses of databases and their passwords

An address is cut as its reader cuts it: after the scheme the credentials stand up to the first at
sign, then hosts and name up to the first question mark, then the parameters. There are two places
for a password, after the first colon of the credentials and in parameters of that name. Two
addresses that differ in passwords only agree from an at sign on if an at sign follows each password.
-/

namespace Depository

namespace Database

/-- The parts of an address. -/
structure Address where
  scheme : String
  credentials : Option (List Char)
  place : List Char
  parameters : List (List Char)
  scheme_mem : scheme ∈ schemes
  at_notMem_credentials : ∀ cs ∈ credentials, '@' ∉ cs
  at_notMem : credentials = none → '@' ∉ place ∧ ∀ p ∈ parameters, '@' ∉ p
  mark_notMem : '?' ∉ place
  ampersand_notMem : ∀ p ∈ parameters, '&' ∉ p

namespace Address

/-- Credentials with the at sign behind them. -/
def credentialsText : Option (List Char) → List Char
  | none => []
  | some cs => cs ++ ['@']

/-- Parameters with an ampersand before each. -/
def ampersands (ps : List (List Char)) : List Char := ps.flatMap ('&' :: ·)

/-- Parameters behind a question mark, with ampersands between them. -/
def parametersText : List (List Char) → List Char
  | [] => []
  | p :: rest => '?' :: (p ++ ampersands rest)

/-- What stands behind the credentials. -/
def rest (a : Address) : List Char := a.place ++ parametersText a.parameters

def text (a : Address) : List Char :=
  a.scheme.toList ++ (credentialsText a.credentials ++ a.rest)

theorem beginsWith_text (a : Address) :
    Text.beginsWith (String.ofList a.text) "postgresql://" = true ∨
      Text.beginsWith (String.ofList a.text) "postgres://" = true := by
  have hprefix : Text.beginsWith (String.ofList a.text) a.scheme = true := by
    rw [Text.beginsWith, String.toList_ofList, text]
    exact List.isPrefixOf_iff_prefix.mpr (List.prefix_append _ _)
  rcases List.mem_cons.mp a.scheme_mem with hscheme | hscheme
  · exact .inr (hscheme ▸ hprefix)
  · exact .inl (List.mem_singleton.mp hscheme ▸ hprefix)

private theorem mem_ampersands_iff {c : Char} (hc : c ≠ '&') {ps : List (List Char)} :
    c ∈ ampersands ps ↔ ∃ p ∈ ps, c ∈ p := by
  simp [ampersands, hc]

private theorem mem_parametersText_iff {c : Char} (hc : c ≠ '?') (hc' : c ≠ '&')
    {ps : List (List Char)} :
    c ∈ parametersText ps ↔ ∃ p ∈ ps, c ∈ p := by
  cases ps with
  | nil => simp [parametersText]
  | cons p rest => simp [parametersText, hc, mem_ampersands_iff hc']

/-! ### Cutting -/

private theorem intercalate_cons (p : List Char) (rest : List (List Char)) :
    ['&'].intercalate (p :: rest) = p ++ ampersands rest := by
  induction rest generalizing p with
  | nil => simp [ampersands]
  | cons q rest ih =>
    rw [List.intercalate_cons_cons, ih]
    simp [ampersands]

private theorem splitAt_ampersands {p : List Char} {rest : List (List Char)}
    (h : ∀ q ∈ p :: rest, '&' ∉ q) : Text.splitAt '&' (p ++ ampersands rest) = p :: rest := by
  rw [Text.splitAt_eq_iff (List.cons_ne_nil _ _), intercalate_cons]
  exact ⟨rfl, h⟩

private theorem at_notMem_rest {a : Address} (h : a.credentials = none) : '@' ∉ a.rest := by
  obtain ⟨hplace, hparameters⟩ := a.at_notMem h
  rw [rest, List.mem_append, mem_parametersText_iff (by decide) (by decide)]
  rintro (hin | ⟨p, hp, hin⟩)
  · exact hplace hin
  · exact hparameters p hp hin

private theorem cutAt_at (a : Address) :
    Text.cutAt '@' (credentialsText a.credentials ++ a.rest) =
      a.credentials.map fun cs => (cs, a.rest) := by
  cases h : a.credentials with
  | none => exact Text.cutAt_eq_none_iff.mpr (at_notMem_rest h)
  | some cs =>
    rw [credentialsText, List.append_assoc]
    exact Text.cutAt_append (a.at_notMem_credentials cs h)

private theorem cutAt_mark (a : Address) :
    Text.cutAt '?' a.rest =
      match a.parameters with
      | [] => none
      | p :: ps => some (a.place, p ++ ampersands ps) := by
  cases hps : a.parameters with
  | nil =>
    rw [rest, hps, parametersText, List.append_nil]
    exact Text.cutAt_eq_none_iff.mpr a.mark_notMem
  | cons p ps =>
    rw [rest, hps]
    exact Text.cutAt_append a.mark_notMem

private theorem rest_inj {a b : Address} (h : a.rest = b.rest) :
    a.place = b.place ∧ a.parameters = b.parameters := by
  have hsame := congrArg (Text.cutAt '?') h
  rw [cutAt_mark, cutAt_mark] at hsame
  cases hps : a.parameters with
  | nil =>
    cases hqs : b.parameters with
    | nil => simpa [rest, hps, hqs] using h
    | cons => simp [hps, hqs] at hsame
  | cons p ps =>
    cases hqs : b.parameters with
    | nil => simp [hps, hqs] at hsame
    | cons q qs =>
      simp only [hps, hqs, Option.some.injEq, Prod.mk.injEq] at hsame
      have hparts := congrArg (Text.splitAt '&') hsame.2
      rw [splitAt_ampersands (hps ▸ a.ampersand_notMem),
        splitAt_ampersands (hqs ▸ b.ampersand_notMem)] at hparts
      exact ⟨hsame.1, hparts⟩

private theorem scheme_inj {s s' : String} {cs cs' : List Char} (hs : s ∈ schemes)
    (hs' : s' ∈ schemes) (h : s.toList ++ cs = s'.toList ++ cs') : s = s' ∧ cs = cs' := by
  simp only [schemes, List.mem_cons, List.not_mem_nil, or_false] at hs hs'
  rcases hs with rfl | rfl <;> rcases hs' with rfl | rfl <;> simp_all

/-- An address has its parts in one way only. -/
theorem text_injective : Function.Injective text := by
  intro a b h
  obtain ⟨hscheme, hbehind⟩ := scheme_inj a.scheme_mem b.scheme_mem h
  have hcut := congrArg (Text.cutAt '@') hbehind
  rw [cutAt_at, cutAt_at] at hcut
  have hparts : a.credentials = b.credentials ∧ a.rest = b.rest := by
    cases ha : a.credentials with
    | none =>
      cases hb : b.credentials with
      | none => simpa [ha, hb, credentialsText] using hbehind
      | some => simp [ha, hb] at hcut
    | some cs =>
      cases hb : b.credentials with
      | none => simp [ha, hb] at hcut
      | some => simpa [ha, hb] using hcut
  obtain ⟨hplace, hparameters⟩ := rest_inj hparts.2
  cases a
  cases b
  obtain ⟨rfl, -⟩ := hparts
  subst hscheme hplace hparameters
  rfl

/-- Every text that begins with a scheme has such parts. -/
theorem exists_text_eq {scheme : String} {cs : List Char} (hscheme : scheme ∈ schemes) :
    ∃ a : Address, a.text = scheme.toList ++ cs := by
  have hrest (rest : List Char) : ∃ place ps, rest = place ++ parametersText ps ∧ '?' ∉ place ∧
      ∀ p ∈ ps, '&' ∉ p := by
    cases hcut : Text.cutAt '?' rest with
    | none => exact ⟨rest, [], by simp [parametersText], Text.cutAt_eq_none_iff.mp hcut, by simp⟩
    | some parts =>
      obtain ⟨hrest, hplace⟩ := Text.cutAt_eq_some_iff.mp hcut
      cases hps : Text.splitAt '&' parts.2 with
      | nil =>
        rw [Text.splitAt_eq_splitOn] at hps
        exact absurd hps (List.splitOn_ne_nil _ _)
      | cons p ps =>
        obtain ⟨hjoined, hall⟩ := (Text.splitAt_eq_iff (List.cons_ne_nil _ _)).mp hps
        rw [intercalate_cons] at hjoined
        exact ⟨parts.1, p :: ps, by rw [hrest, parametersText, hjoined], hplace, hall⟩
  cases hcut : Text.cutAt '@' cs with
  | none =>
    obtain ⟨place, ps, hparts, hplace, hps⟩ := hrest cs
    have hat : '@' ∉ place ∧ ∀ p ∈ ps, '@' ∉ p := by
      have hnone : '@' ∉ cs := Text.cutAt_eq_none_iff.mp hcut
      rw [hparts, List.mem_append, mem_parametersText_iff (by decide) (by decide)] at hnone
      exact ⟨fun h => hnone (.inl h), fun p hp h => hnone (.inr ⟨p, hp, h⟩)⟩
    exact ⟨⟨scheme, none, place, ps, hscheme, nofun, fun _ => hat, hplace, hps⟩,
      by simp [text, credentialsText, rest, hparts]⟩
  | some parts =>
    obtain ⟨hcs, hcredentials⟩ := Text.cutAt_eq_some_iff.mp hcut
    obtain ⟨place, ps, hparts, hplace, hps⟩ := hrest parts.2
    exact ⟨⟨scheme, some parts.1, place, ps, hscheme, by simpa using hcredentials, nofun, hplace,
      hps⟩, by simp [text, credentialsText, rest, hcs, hparts]⟩

/-! ### Passwords -/

/-- The name of a parameter that is a password. -/
def IsPasswordName (name : List Char) : Prop :=
  '=' ∉ name ∧ Text.percentDecoded? (String.ofList name) = some "password"

/-- A parameter is a password. -/
def IsPassword (p : List Char) : Prop :=
  ∃ name value, IsPasswordName name ∧ p = name ++ '=' :: value

/-- Two parameters that differ only if both are passwords. -/
inductive SameParameter : List Char → List Char → Prop where
  | same (p : List Char) : SameParameter p p
  | password {name value value' : List Char} (h : IsPasswordName name) :
      SameParameter (name ++ '=' :: value) (name ++ '=' :: value')

/-- The user in credentials stands before their first colon. -/
def user (credentials : List Char) : List Char := credentials.takeWhile (· != ':')

/-- Two addresses that differ in nothing but their passwords. -/
structure SameButPasswords (a b : Address) : Prop where
  scheme : a.scheme = b.scheme
  user : a.credentials.map user = b.credentials.map user
  place : a.place = b.place
  parameters : List.Forall₂ SameParameter a.parameters b.parameters

/-- Behind each password among some parameters, an at sign stands in another parameter. -/
def Covered (ps : List (List Char)) : Prop :=
  ∀ p rest, p :: rest <:+ ps → IsPassword p → ∃ q ∈ rest, '@' ∈ q

private theorem covered_cons {p : List Char} {rest : List (List Char)} :
    Covered (p :: rest) ↔ (IsPassword p → ∃ q ∈ rest, '@' ∈ q) ∧ Covered rest := by
  constructor
  · intro h
    exact ⟨h p rest (List.suffix_refl _), fun q qs hqs => h q qs (hqs.trans (List.suffix_cons _ _))⟩
  · rintro ⟨hfirst, hrest⟩ q qs hqs
    rcases List.suffix_cons_iff.mp hqs with heq | hqs
    · cases heq
      exact hfirst
    · exact hrest q qs hqs

/-- Two texts are the same, or at least from an at sign on. -/
def SameEnd (cs ds : List Char) : Prop :=
  cs = ds ∨ ∃ before before' after, cs = before ++ after ∧ ds = before' ++ after ∧ '@' ∈ after

private theorem sameEnd_cons {c : Char} {p q : List Char} {ps qs : List (List Char)}
    (hpq : SameParameter p q) (hfirst : IsPassword p → ∃ r ∈ ps, '@' ∈ r)
    (hrest : SameEnd (ampersands ps) (ampersands qs)) :
    SameEnd (c :: (p ++ ampersands ps)) (c :: (q ++ ampersands qs)) := by
  rcases hrest with heq | ⟨x, y, after, hx, hy, hat⟩
  · cases hpq with
    | same => exact .inl (by rw [heq])
    | @password name value value' hname =>
      have hat : '@' ∈ ampersands ps :=
        (mem_ampersands_iff (by decide)).mpr (hfirst ⟨name, value, hname, rfl⟩)
      exact .inr ⟨c :: (name ++ '=' :: value), c :: (name ++ '=' :: value'), ampersands ps, rfl,
        by rw [heq]; rfl, hat⟩
  · exact .inr ⟨c :: (p ++ x), c :: (q ++ y), after, by simp [hx], by simp [hy], hat⟩

private theorem sameEnd_ampersands {ps qs : List (List Char)} (h : List.Forall₂ SameParameter ps qs)
    (hcovered : Covered ps) : SameEnd (ampersands ps) (ampersands qs) := by
  induction h with
  | nil => exact .inl rfl
  | cons hpq _ ih =>
    obtain ⟨hfirst, hcovered⟩ := covered_cons.mp hcovered
    exact sameEnd_cons hpq hfirst (ih hcovered)

private theorem sameEnd_parametersText {ps qs : List (List Char)}
    (h : List.Forall₂ SameParameter ps qs)
    (hcovered : Covered ps) : SameEnd (parametersText ps) (parametersText qs) := by
  cases h with
  | nil => exact .inl rfl
  | cons hpq hrest =>
    obtain ⟨hfirst, hcovered⟩ := covered_cons.mp hcovered
    exact sameEnd_cons hpq hfirst (sameEnd_ampersands hrest hcovered)

/-- Where the passwords in parameters are followed by at signs, other passwords leave the end of an
address as it is. -/
theorem SameButPasswords.sameEnd {a b : Address} (h : SameButPasswords a b)
    (hcovered : Covered a.parameters) : SameEnd a.text b.text := by
  obtain ⟨hscheme, huser, hplace, hparameters⟩ := h
  rcases sameEnd_parametersText hparameters hcovered with heq | ⟨x, y, after, hx, hy, hat⟩
  · have hrest : a.rest = b.rest := by rw [rest, rest, hplace, heq]
    cases ha : a.credentials with
    | none =>
      have hb : b.credentials = none := by simpa [ha] using huser.symm
      exact .inl (by rw [text, text, hscheme, ha, hb, hrest])
    | some cs =>
      obtain ⟨ds, hb⟩ : ∃ ds, b.credentials = some ds := by
        rw [ha, Option.map_some, eq_comm, Option.map_eq_some_iff] at huser
        obtain ⟨ds, hds, -⟩ := huser
        exact ⟨ds, hds⟩
      exact .inr ⟨a.scheme.toList ++ cs, b.scheme.toList ++ ds, '@' :: a.rest,
        by simp [text, ha, credentialsText], by simp [text, hb, credentialsText, hrest],
        List.mem_cons_self⟩
  · exact .inr ⟨a.scheme.toList ++ (credentialsText a.credentials ++ (a.place ++ x)),
      b.scheme.toList ++ (credentialsText b.credentials ++ (b.place ++ y)), after,
      by simp [text, rest, hx], by simp [text, rest, hy], hat⟩

private theorem exists_parametersText_append (front : List (List Char)) :
    ∃ lead, ∀ p rest, parametersText (front ++ p :: rest) = lead ++ (p ++ ampersands rest) := by
  cases front with
  | nil => exact ⟨['?'], fun p rest => rfl⟩
  | cons q qs =>
    refine ⟨'?' :: (q ++ ampersands qs) ++ ['&'], fun p rest => ?_⟩
    simp [parametersText, ampersands]

/-- Where no at sign follows a password, another password can stand in its place. -/
theorem exists_other_password {a : Address} (h : ¬ Covered a.parameters) :
    ∃ before after, '@' ∉ after ∧ ∀ value, '@' ∉ value → '&' ∉ value →
      ∃ b, SameButPasswords a b ∧ b.text = before ++ (value ++ after) := by
  simp only [Covered, not_forall, not_exists, not_and] at h
  obtain ⟨p, rest, ⟨front, hfront⟩, ⟨name, value, hname, rfl⟩, hnone⟩ := h
  obtain ⟨lead, hlead⟩ := exists_parametersText_append front
  refine ⟨a.scheme.toList ++ (credentialsText a.credentials ++ (a.place ++ (lead ++
    (name ++ ['='])))), ampersands rest, ?_, fun other hat hampersand => ?_⟩
  · rw [mem_ampersands_iff (by decide)]
    rintro ⟨q, hq, hin⟩
    exact hnone q hq hin
  · have hparts (c : Char) (hc : ∀ q ∈ a.parameters, c ∉ q) (hequals : c ≠ '=')
        (hother : c ∉ other) : ∀ q ∈ front ++ (name ++ '=' :: other) :: rest, c ∉ q := by
      rw [← hfront, List.forall_mem_append, List.forall_mem_cons] at hc
      obtain ⟨hbefore, hpassword, hafter⟩ := hc
      have hc : c ∉ name ++ '=' :: other := by simp_all
      exact List.forall_mem_append.mpr ⟨hbefore, List.forall_mem_cons.mpr ⟨hc, hafter⟩⟩
    have hsame (ps : List (List Char)) : List.Forall₂ SameParameter ps ps :=
      List.forall₂_same.mpr fun p _ => .same p
    have hothers : List.Forall₂ SameParameter a.parameters
        (front ++ (name ++ '=' :: other) :: rest) := by
      rw [← hfront]
      exact List.rel_append (hsame front) (.cons (.password hname) (hsame rest))
    refine ⟨{ a with
      parameters := front ++ (name ++ '=' :: other) :: rest
      at_notMem := fun h => ⟨(a.at_notMem h).1, hparts '@' (a.at_notMem h).2 (by decide) hat⟩
      ampersand_notMem := hparts '&' a.ampersand_notMem (by decide) hampersand },
      ⟨rfl, rfl, rfl, hothers⟩, ?_⟩
    simp [text, Address.rest, hlead]

end Address

end Database

end Depository
