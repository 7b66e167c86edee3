import Depository.Text.Blank
import Depository.Text.Split

/-!
# Secrets

Texts that are used but never shown: all secrets are shown alike.
-/

namespace Depository

/-- A text that is not to be shown. -/
structure Secret where
  exposed : String
  deriving DecidableEq

namespace Secret

/-- A secret is empty when its text is blank. -/
def isEmpty (s : Secret) : Bool := Text.isBlankText s.exposed

/-- What is shown in place of a secret. -/
def shown (_ : Secret) : String := "Secret([REDACTED cairn::config::secret::SecretValue])"

end Secret

end Depository
