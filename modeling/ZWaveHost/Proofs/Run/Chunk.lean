/-
  ZWaveHost.Proofs.Run.Chunk — chunks that come to an adapter.

  An adapter delivers frames over an idle link and leaves it idle, whatever
  they are, so its chunks are taken in as any link takes them in.

  Main fact: a chunk may be cut behind bytes without a frame error
  (`Adapter.receive_append`).
-/
import ZWaveHost.Proofs.Link.Reception
import ZWaveHost.Proofs.Run.Inbound

namespace ZWaveHost

variable {π : Type} [Port π]

/-- **A frame is accepted over an idle link and leaves it so**, for whatever
    is sent in answer is sent at once. -/
theorem Host.keepsIdle_accept : Link.KeepsIdle (Host.accept : Frame → Link π × Host → _) := by
  intro frame l h hl
  cases frame with
  | ack => exact hl
  | nak => exact hl
  | can => exact hl
  | data f =>
    show (Host.acceptData f (l, h)).1.Idle
    obtain ⟨received, heq⟩ := Host.acceptData_link f l h
    have hsent := hl.send_idle (if f.isValid then .ack else .nak)
    rw [heq]
    exact ⟨hsent.decoder, hsent.line⟩

namespace Adapter

variable {a : Adapter π}

/-- **A chunk changes the queue, the request in flight and the rejections only.** -/
theorem receive_host_eq (a : Adapter π) (bytes : List UInt8) :
    ∃ queue inFlight rejections permit, (a.receive bytes).host
      = { a.host with queue := queue, inFlight := inFlight, rejections := rejections
                      permit := permit } := by
  unfold receive
  split
  · exact ⟨_, _, _, _, rfl⟩
  · refine Link.receive_preserves
      (P := fun h : Host => ∃ queue inFlight rejections permit, h
        = { a.host with queue := queue, inFlight := inFlight, rejections := rejections
                        permit := permit })
      ?_ bytes a.link a.host ⟨_, _, _, _, rfl⟩
    intro frame l h hbefore
    obtain ⟨_, _, _, _, hbefore⟩ := hbefore
    obtain ⟨queue, inFlight, rejections, permit, heq⟩ := Host.accept_eq frame l h
    refine ⟨queue, inFlight, rejections, permit, ?_⟩
    rw [heq, hbefore]

theorem receive_lifetime (a : Adapter π) (bytes : List UInt8) :
    (a.receive bytes).host.lifetime = a.host.lifetime := by
  obtain ⟨_, _, _, _, heq⟩ := a.receive_host_eq bytes
  rw [heq]

theorem receive_registry (a : Adapter π) (bytes : List UInt8) :
    (a.receive bytes).host.registry = a.host.registry := by
  obtain ⟨_, _, _, _, heq⟩ := a.receive_host_eq bytes
  rw [heq]

theorem receive_balanced (hl : a.link.Balanced) (bytes : List UInt8) :
    (a.receive bytes).link.Balanced := by
  unfold receive
  split
  · exact hl
  · exact (hl.receive Host.keepsIdle_accept bytes a.host).1

/-- A chunk leaves the decoder where its bytes leave it, up to a frame error. -/
theorem receive_decoder (hl : a.link.Balanced) (hlives : a.host.lifetime ≠ .gone)
    (bytes : List UInt8) :
    (a.receive bytes).link.decoder = (a.link.decoder.feed (a.link.decoder.kept bytes)).2 := by
  unfold receive
  rw [if_neg hlives]
  exact (hl.receive Host.keepsIdle_accept bytes a.host).2

/-- **A chunk may be cut** behind bytes without a frame error. -/
theorem receive_append (hl : a.link.Balanced) (before after : List UInt8)
    (hclean : ∀ r ∈ (a.link.decoder.feed before).1, r.isOk = true) :
    a.receive (before ++ after) = (a.receive before).receive after := by
  by_cases hgone : a.host.lifetime = .gone
  · have hsame (bytes : List UInt8) : a.receive bytes = a := if_pos hgone
    rw [hsame, hsame, hsame]
  · have hstill : (a.receive before).host.lifetime ≠ .gone := by
      rw [receive_lifetime]
      exact hgone
    have hcut := Link.receive_append Host.keepsIdle_accept before after hl a.host hclean
    unfold receive at hstill ⊢
    rw [if_neg hgone] at hstill ⊢
    rw [if_neg hgone, if_neg hstill, hcut]

/-- What stands behind a frame error in a chunk is dropped. -/
theorem receive_append_of_error (before after : List UInt8)
    (herror : ∃ r ∈ (a.link.decoder.feed before).1, r.isOk = false) (hl : a.link.Balanced) :
    a.receive (before ++ after) = a.receive before := by
  unfold receive
  split
  · rfl
  · rw [Link.receive_append_of_error Host.keepsIdle_accept before after hl a.host herror]

end Adapter

end ZWaveHost
