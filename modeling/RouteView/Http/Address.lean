import RouteView.Fault
import RouteView.Value.Number

/-!
# Addresses to listen on

An address is a host and a number below `2 ^ 16` with a colon between them; the last colon counts.
`splitLast_eq_some` says that splitting there loses nothing.
-/
set_option autoImplicit false
namespace RouteView.Http

structure Address where
  host : Text
  number : Nat
deriving DecidableEq

inductive AddressFault
  | noColon
  | badNumber
deriving DecidableEq

def AddressFault.message : AddressFault → Text
  | noColon => "invalid socket address"
  | badNumber => "invalid port value"

def splitLast (source : Text) : Option (Text × Text) :=
  (Text.cutAt ':' source.reverse).map fun (after, before) => (before.reverse, after.reverse)

def Address.parse (source : Text) : Except AddressFault Address :=
  match splitLast source with
  | none => .error .noColon
  | some (host, digits) =>
      match Value.unsigned? (Nat.pow 2 16) digits with
      | none => .error .badNumber
      | some n => .ok ⟨host, n⟩

def Address.toListen (source : Text) : Attempt Address :=
  (Address.parse source).mapError fun fault =>
    .improperlyConfigured ("Failed to bind to " ++ source ++ ": " ++ fault.message)

theorem splitLast_eq_some {source host last : Text} (h : splitLast source = some (host, last)) :
    source = host ++ ':' :: last ∧ ':' ∉ last := by
  obtain ⟨⟨after, before⟩, hc, he⟩ := Option.map_eq_some_iff.mp h
  simp only [Prod.mk.injEq] at he
  obtain ⟨rfl, rfl⟩ := he
  obtain ⟨hs, hn⟩ := Text.cutAt_eq_some hc
  refine ⟨?_, by simpa using hn⟩
  have := congrArg List.reverse hs
  simpa using this

end RouteView.Http
