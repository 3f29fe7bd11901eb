/-
  ZWaveHost.Proofs.Run.Delivery — what is handed to the subscribers.

  A command is offered to the subscriptions that there are, and the handler of
  each that wants it runs (`Subscriptions.offers`).  Each of these deliveries
  is reported.

  Main facts: a command from the queue is delivered to everybody who wants it
  (`deliverNext_eq_of_queue`), a queue that is emptied is delivered in order
  (`deliverAll_eq_of_queue`), and nothing else delivers anything.
-/
import ZWaveHost.Proofs.Run.Bystander

namespace ZWaveHost

/-! ## §1. Reports of deliveries -/

/-- The handlers that run for a command, each with the command. -/
def Subscriptions.offers (s : Subscriptions) (command : Command) :
    List (Subscription.Handle × Command) :=
  (s.recipients command).map (·, command)

/-- The report of a delivery. -/
def Report.ofDelivery (delivery : Subscription.Handle × Command) : Report :=
  .delivered delivery.1 delivery.2

/-- The delivery that a report tells of. -/
def Report.delivery? : Report → Option (Subscription.Handle × Command)
  | .delivered handle command => some (handle, command)
  | _ => none

theorem Report.filterMap_delivery?_ofDelivery (offers : List (Subscription.Handle × Command)) :
    (offers.map Report.ofDelivery).filterMap Report.delivery? = offers := by
  rw [List.filterMap_map]
  exact List.filterMap_some

namespace Host

/-- The deliveries so far. -/
def deliveries (h : Host) : List (Subscription.Handle × Command) :=
  h.outbox.filterMap Report.delivery?

/-! ## §2. Handing over -/

/-- **A command that is handed over is delivered to everybody who wants it.** -/
theorem deliver_eq (h : Host) (command : Command) :
    h.deliver command
      = { h with outbox := h.outbox ++ (h.subscriptions.offers command).map .ofDelivery } := by
  have hrun := foldl_delivered command (h.subscriptions.recipients command) h.subscriptions
    h.outbox
  have hoffers : (h.subscriptions.offers command).map Report.ofDelivery
      = (h.subscriptions.recipients command).map fun handle => .delivered handle command :=
    List.map_map
  rw [hoffers]
  exact congrArg (fun s : Subscriptions × List Report =>
    { h with subscriptions := s.1, outbox := s.2 }) hrun

theorem foldl_deliver (commands : List Command) (h : Host) :
    commands.foldl deliver h = { h with
      outbox := h.outbox ++ (commands.flatMap h.subscriptions.offers).map .ofDelivery } := by
  induction commands generalizing h with
  | nil =>
    rw [List.flatMap_nil, List.map_nil, List.append_nil]
    rfl
  | cons command rest ih =>
    rw [List.foldl_cons, ih, deliver_eq, List.flatMap_cons, List.map_append, List.append_assoc]

theorem deliverNext_eq_of_queue {h : Host} {command : Command} {rest : List Command}
    (hqueue : h.queue = some (command :: rest)) :
    h.deliverNext = { h with
      queue := some rest
      outbox := h.outbox ++ (h.subscriptions.offers command).map .ofDelivery } := by
  unfold deliverNext
  rw [hqueue]
  exact deliver_eq _ command

/-- **Every command in the queue is delivered, in order.** -/
theorem deliverAll_eq_of_queue {h : Host} {commands : List Command}
    (hqueue : h.queue = some commands) :
    h.deliverAll = { h with
      queue := some []
      outbox := h.outbox ++ (commands.flatMap h.subscriptions.offers).map .ofDelivery } := by
  unfold deliverAll
  rw [hqueue]
  exact foldl_deliver commands _

/-! ## §3. What delivers nothing -/

theorem deliveries_append (h : Host) (reports : List Report) :
    ({ h with outbox := h.outbox ++ reports } : Host).deliveries
      = h.deliveries ++ reports.filterMap Report.delivery? :=
  List.filterMap_append

theorem deliveries_report {r : Report} (hr : r.delivery? = none) (h : Host) :
    (h.report r).deliveries = h.deliveries := by
  show ({ h with outbox := h.outbox ++ [r] } : Host).deliveries = _
  rw [deliveries_append, List.filterMap_cons_none hr]
  exact List.append_nil _

/-- The end of an exchange delivers nothing. -/
theorem deliveries_conclude (h : Host) (e : Errand) (result : Except HostError Outcome) :
    (Adapter.conclude h e result).deliveries = h.deliveries := by
  unfold Adapter.conclude
  split
  · exact deliveries_report rfl h
  · exact deliveries_report rfl h
  · split
    · rfl
    · exact deliveries_report rfl h

end Host

end ZWaveHost
