import RelayHub.Proofs.Hub.Dealing

/-! What happens to the queues of clients outside their write loops: messages that are accepted join the
end, and once a sender is gone no more are. -/
namespace RelayHub

namespace Client

def arrived (c : Client) : List Bytes := c.accepted.reverse

structure Later (c c' : Client) : Prop where
  more : ∃ new, c'.queue = c.queue ++ new ∧ c'.arrived = c.arrived ++ new ∧
    (c.sender = false → new = [])
  sender : c.sender = false → c'.sender = false
  taken : c.queueTaken = true → c'.queueTaken = true
  honest : c.sender = c.isOpen → c'.sender = c'.isOpen

namespace Later

theorem same {c c' : Client} (queue : c'.queue = c.queue) (accepted : c'.accepted = c.accepted)
    (sender : c.sender = false → c'.sender = false)
    (taken : c.queueTaken = true → c'.queueTaken = true)
    (honest : c.sender = c.isOpen → c'.sender = c'.isOpen) : c.Later c' where
  more := ⟨[], by simp [queue], by simp [arrived, accepted], fun _ => rfl⟩
  sender := sender
  taken := taken
  honest := honest

theorem refl (c : Client) : c.Later c :=
  .same rfl rfl (fun gone => gone) (fun given => given) (fun honest => honest)

theorem trans {a b c : Client} (first : a.Later b) (second : b.Later c) : a.Later c where
  more := by
    obtain ⟨one, queue, arrived, silent⟩ := first.more
    obtain ⟨two, queue', arrived', silent'⟩ := second.more
    refine ⟨one ++ two, ?_, ?_, ?_⟩
    · rw [queue', queue, List.append_assoc]
    · rw [arrived', arrived, List.append_assoc]
    · intro gone
      rw [silent gone, silent' (first.sender gone), List.append_nil]
  sender gone := second.sender (first.sender gone)
  taken given := second.taken (first.taken given)
  honest before := second.honest (first.honest before)

theorem beginClose (c : Client) : c.Later c.beginClose := by
  unfold Client.beginClose
  split
  · refine .same rfl rfl (fun _ => rfl) (fun given => given) fun _ => ?_
    cases started : c.started <;> simp [isOpen]
  · exact .refl c

theorem offer (c : Client) (capacity : Nat) (m : Bytes) : c.Later (c.offer capacity m).2 := by
  rcases c.offerCases capacity m with ⟨-, offered⟩ | ⟨sending, -, offered⟩ | ⟨-, -, offered⟩
  · rw [offered]
    exact .refl c
  · rw [offered]
    refine ⟨⟨[m], rfl, by simp [arrived], fun gone => ?_⟩, fun gone => gone, fun given => given,
      fun honest => honest⟩
    exact absurd (sending.symm.trans gone) (by simp)
  · rw [offered]
    exact .refl c

theorem cancel (c : Client) : c.Later c.cancel :=
  .same rfl rfl (fun gone => gone) (fun given => given) (fun honest => honest)

theorem dealt {capacity : Nat} {c c' : Client} (dealt : Dealt capacity c c') : c.Later c' := by
  induction dealt with
  | refl c => exact .refl c
  | offered c m => exact .offer c capacity m
  | @closed c _ => exact (beginClose c).trans (cancel _)
  | trans _ _ first second => exact first.trans second

end Later

theorem offerResult (c : Client) (capacity : Nat) (m : Bytes) :
    (c.offer capacity m).2.arrived =
      if (c.offer capacity m).1 = .accepted then c.arrived ++ [m] else c.arrived := by
  rcases c.offerCases capacity m with ⟨-, offered⟩ | ⟨-, -, offered⟩ | ⟨-, -, offered⟩
  · simp [offered]
  · simp [offered, arrived]
  · simp [offered]

end Client

namespace Hub

structure Later (hub hub' : Hub) : Prop where
  length : hub'.clients.length = hub.clients.length
  client : ∀ k c, hub.client? k = some c → ∃ c', hub'.client? k = some c' ∧ c.Later c'

namespace Later
variable {hub hub' : Hub}

theorem same (clients : hub'.clients = hub.clients) : Later hub hub' where
  length := by rw [clients]
  client k c found := by
    refine ⟨c, ?_, .refl c⟩
    rw [client?, clients]
    exact found

theorem refl (hub : Hub) : Later hub hub := .same rfl

theorem trans {a b c : Hub} (first : Later a b) (second : Later b c) : Later a c where
  length := second.length.trans first.length
  client k x found := by
    obtain ⟨y, found', later⟩ := first.client k x found
    obtain ⟨z, found'', later'⟩ := second.client k y found'
    exact ⟨z, found'', later.trans later'⟩

theorem update (hub : Hub) (h : Handle) {f : Client → Client}
    (later : ∀ c, hub.client? h = some c → c.Later (f c)) : Later hub (hub.update h f) where
  length := by simp [Hub.update]
  client k c found := by
    rw [clientUpdate]
    split
    · rename_i here
      subst here
      exact ⟨f c, by simp [found], later c found⟩
    · exact ⟨c, found, .refl c⟩

theorem beginClose (hub : Hub) (h : Handle) : Later hub (hub.beginClose h).2 :=
  .update hub h fun c _ => .beginClose c

theorem finishClose (hub : Hub) (h : Handle) : Later hub (hub.finishClose h) := by
  have cancelled : Later hub (hub.update h Client.cancel) := .update hub h fun c _ => .cancel c
  exact cancelled.trans (.same (finishCloseClients hub h))

theorem dealt (dealt : Dealt hub hub') : Later hub hub' where
  length := dealt.length
  client k c found := by
    obtain ⟨c', found', dealt⟩ := dealt.client k c found
    exact ⟨c', found', .dealt dealt⟩

end Later

theorem sendResult {hub : Hub} {h : Handle} {c : Client} (found : hub.client? h = some c) (m : Bytes) :
    ∃ c', (hub.send h m).2.client? h = some c' ∧
      c'.arrived = if (hub.send h m).1 then c.arrived ++ [m] else c.arrived := by
  have result := c.offerResult hub.config.sendBufferSize m
  unfold send
  simp only [found]
  cases shape : c.offer hub.config.sendBufferSize m with
  | mk answer c' =>
    rw [shape] at result
    cases answer with
    | accepted => exact ⟨c', by simp [clientUpdate, found], by simpa using result⟩
    | full => exact ⟨c, found, by simp⟩
    | closed => exact ⟨c, found, by simp⟩

end Hub
end RelayHub
