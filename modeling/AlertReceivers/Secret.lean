namespace AlertReceivers

/-!
# Secrets

A secret is a text that is compared and tested for emptiness like any other but
is always shown as the same placeholder.
-/

/-- A credential. -/
structure Secret where
  /-- The text itself, for those who need it. -/
  expose : String
  deriving DecidableEq

namespace Secret

/-- What is shown in place of any secret. -/
def placeholder : String :=
  "<secret>"

/-- A secret as it is shown. -/
def shown (_ : Secret) : String :=
  placeholder

instance : ToString Secret :=
  ⟨shown⟩

instance : Repr Secret :=
  ⟨fun secret _ => secret.shown⟩

/-- The secret without text. -/
def empty : Secret :=
  ⟨""⟩

/-- Whether a secret has no text. -/
def isEmpty (secret : Secret) : Bool :=
  secret.expose.isEmpty

end Secret

end AlertReceivers
