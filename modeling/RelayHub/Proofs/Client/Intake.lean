import RelayHub.Proofs.Client.Life
import RelayHub.Proofs.Hub.Queues

/-! What a client is given over its life. Messages only ever join those that were accepted before, none do once the
sender is gone, and what waits is the end of them. -/
namespace RelayHub

namespace Client
variable {a b c c' : Client}

structure Onward (c c' : Client) : Prop where
  traits : c'.traits = c.traits
  more : c.arrived <+: c'.arrived
  silent : c.sender = false → c'.sender = false ∧ c'.arrived = c.arrived

theorem Later.onward (later : c.Later c') (traits : c'.traits = c.traits) : c.Onward c' := by
  obtain ⟨new, -, arrived, silent⟩ := later.more
  refine ⟨traits, ⟨new, arrived.symm⟩, fun gone => ⟨later.sender gone, ?_⟩⟩
  rw [arrived, silent gone, List.append_nil]

theorem Later.waits (later : c.Later c') (waits : c.queue <:+ c.arrived) : c'.queue <:+ c'.arrived := by
  obtain ⟨new, queue, arrived, -⟩ := later.more
  obtain ⟨front, whole⟩ := waits
  exact ⟨front, by rw [queue, arrived, ← whole, List.append_assoc]⟩

theorem Onward.refl (c : Client) : c.Onward c := ⟨rfl, List.prefix_refl _, fun gone => ⟨gone, rfl⟩⟩

theorem Onward.trans (first : a.Onward b) (second : b.Onward c) : a.Onward c where
  traits := second.traits.trans first.traits
  more := first.more.trans second.more
  silent gone :=
    have ⟨gone', same⟩ := first.silent gone
    have ⟨gone'', same'⟩ := second.silent gone'
    ⟨gone'', same'.trans same⟩

theorem Onward.sending (onward : c.Onward c') (sends : c'.sender = true) : c.sender = true := by
  cases gone : c.sender with
  | true => rfl
  | false => exact absurd ((onward.silent gone).1.symm.trans sends) (by simp)

end Client

namespace Life
open Client (Onward)
variable {capacity : Nat} {l l' : Life}

theorem stepIntake (step : Step capacity l l') : l.client.Later l'.client ∨
    l'.client.accepted = l.client.accepted ∧ l'.client.sender = l.client.sender ∧
      l'.client.queue <:+ l.client.queue := by
  cases step with
  | send m => exact .inl (.offer l.client capacity m)
  | close | refused | leave => exact .inl (.beginClose l.client)
  | cancel => exact .inl (.cancel l.client)
  | takeQueue taken =>
    obtain ⟨-, rfl⟩ := Client.takeQueueGiven taken
    exact .inr ⟨rfl, rfl, List.suffix_refl _⟩
  | dequeue _ taken =>
    obtain ⟨rest, waiting, rfl⟩ := Client.dequeueTaken taken
    exact .inr ⟨rfl, rfl, [_], waiting.symm⟩
  | markClosed => exact .inr ⟨rfl, rfl, List.nil_suffix⟩
  | unheard | told | markStarted | spawn | setMetadata => exact .inr ⟨rfl, rfl, List.suffix_refl _⟩

theorem stepOnward (step : Step capacity l l') : l.client.Onward l'.client := by
  have traits := stepTraits step
  rcases stepIntake step with later | ⟨accepted, sender, -⟩
  · exact later.onward traits
  · have same : l'.client.arrived = l.client.arrived := congrArg List.reverse accepted
    exact ⟨traits, same ▸ List.prefix_refl _, fun gone => ⟨sender.trans gone, same⟩⟩

theorem laterOnward (later : Later capacity l l') : l.client.Onward l'.client := by
  induction later with
  | refl => exact .refl _
  | tail _ step before => exact before.trans (stepOnward step)

theorem livedWaits (lived : Lived capacity l) : l.client.queue <:+ l.client.arrived := by
  obtain ⟨p, later⟩ := lived
  induction later with
  | refl => exact List.nil_suffix
  | tail _ step waits =>
    rcases stepIntake step with later | ⟨accepted, -, rest⟩
    · exact later.waits waits
    · have same := congrArg List.reverse accepted
      rw [Client.arrived, same]
      exact rest.trans waits

theorem firstOffer (lived : Lived capacity l) (room : 0 < capacity) (fresh : l.client.arrived = [])
    (sending : l.client.sender = true) (m : Bytes) : (l.client.offer capacity m).1 = .accepted := by
  have empty : l.client.queue = [] := List.suffix_nil.mp (fresh ▸ livedWaits lived)
  simp [Client.offer, sending, empty, room]

end Life
end RelayHub
