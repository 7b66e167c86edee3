import Depository.Account.Basic

/-!
# Muting

The policy of the installation decides together with the preferences of a user which kinds of
notification are held back. What is always muted is muted for all; what is never muted overrides
the preferences; a kind on both lists is muted.
-/

namespace Depository

/-- The kinds that are muted for all users and those that no user can mute. -/
structure MutePolicy where
  always : TypeSet
  never : TypeSet

namespace MutePolicy

/-- Whether the policy mutes a kind, given whether the user does. -/
def mutes (p : MutePolicy) (t : NotificationType) (byUser : Bool) : Bool :=
  p.always.has t || (!p.never.has t && byUser)

def mutesEmail (p : MutePolicy) (u : User) (t : NotificationType) : Bool :=
  p.mutes t (u.mutedEmails.has t)

def mutesNotification (p : MutePolicy) (u : User) (t : NotificationType) : Bool :=
  p.mutes t (u.mutedNotifications.has t)

end MutePolicy

end Depository
