import Esp32Robot.Viewer.Session

/-!
# A single subscriber

Which runs of a session keep at most one subscriber handle, in `subscriberHandle`,
and answer each offer on the handle that received it. Every trigger of a new
subscriber lists the participants first, and the answer looks at `subscriberHandle`, which
is set when the attach succeeds and not when it is requested.
-/

namespace Esp32Robot.Viewer

open Esp32Robot.Base

/-- The events that make, replace and use subscribers in a session. -/
def ViewerEvent.ofSubscription : ViewerEvent → Bool
  | .attached _ _ | .attachFailed _ _ | .participants _ _ | .listFailed _ => true
  | .publishersChanged _ | .noSuchFeed _ | .offer _ | .answered _ _ | .answerFailed _ _ => true
  | .remoteTrack _ _ _ | .sample | .stats _ _ | .statsFailed => true
  | _ => false

/-- A request for a subscriber, or for an answer by one. -/
def JanusRequest.ofSubscription : JanusRequest → Bool
  | .attach _ role => role = .subscriber
  | .createAnswer _ _ => true
  | .listparticipants _ | .getStats => false

/-- A request for a subscriber. -/
def JanusRequest.attachesSubscriber : JanusRequest → Bool
  | .attach _ role => role = .subscriber
  | _ => false

namespace ViewerState

/-- The requests for a subscriber, or for an answer by one. -/
def subscriptions (v : ViewerState) : List JanusRequest :=
  v.requests.filter JanusRequest.ofSubscription

/-- At most one subscriber is attached, it is the one in `subscriberHandle`, and each step of
answering an offer used the handle that received it. -/
structure SubscribesOnce (v : ViewerState) : Prop where
  single : ∀ g h, v.serves g .subscriber = true → v.serves h .subscriber = true → g = h
  current : ∀ h, v.serves h .subscriber = true → v.subscriberHandle = some h
  answered : ∀ a ∈ v.answers, a.2 = some a.1

/-- The session in `janus` is live, it made and requested no subscriber yet, and every step of
answering so far used the handle that received the offer. -/
structure SessionUp (v : ViewerState) : Prop where
  live : ∃ k, v.janus = some k ∧ v.phase k = some .live
  subscriberHandle : v.subscriberHandle = none
  handles : ∀ h, v.serves h .subscriber = false
  subscriptions : v.subscriptions = []
  answers : ∀ a ∈ v.answers, a.2 = some a.1

/-- `attachSubscriber` is called only while no attach of a subscriber is in flight. -/
def attachesAlone (v : ViewerState) : ViewerEvent → Bool
  | .participants _ participants =>
    !v.reattaches participants || v.requests.all (fun r ↦ !r.attachesSubscriber)
  | _ => true

/-- What the requests can be for: a new subscriber, or answers by the one there is. -/
def Awaits (subscriberHandle : Option Nat) (rs : List JanusRequest) : Prop :=
  match subscriberHandle with
  | none => rs.length ≤ 1 ∧ ∀ r ∈ rs, ∃ k, r = .attach k .subscriber
  | some h => ∀ r ∈ rs, r = .createAnswer h h

/-- The session is live, `subscriberHandle` holds the subscriber that is attached, and the requests
fit it. -/
structure Subscribed (v : ViewerState) : Prop where
  live : ∃ k, v.janus = some k ∧ v.phase k = some .live
  current : ∀ h, v.serves h .subscriber = true → v.subscriberHandle = some h
  held : ∀ h, v.subscriberHandle = some h → ∃ p, v.handles[h]? = some p ∧ p.attached = true
  awaits : Awaits v.subscriberHandle v.subscriptions
  answered : ∀ a ∈ v.answers, a.2 = some a.1

variable {v w : ViewerState}

/-- Nothing was made yet. -/
theorem SessionUp.subscribed (h : v.SessionUp) : v.Subscribed where
  live := h.live
  current g hg := absurd hg (by rw [h.handles g]; decide)
  held g hg := absurd (h.subscriberHandle.symm.trans hg) (by simp)
  awaits := by
    rw [h.subscriberHandle, h.subscriptions]
    exact ⟨Nat.zero_le 1, by simp⟩
  answered := h.answers

/-- What holds of a viewer that has subscribed. -/
theorem Subscribed.subscribesOnce (h : v.Subscribed) : v.SubscribesOnce where
  single f g hf hg := Option.some.inj ((h.current f hf).symm.trans (h.current g hg))
  current := h.current
  answered := h.answered

/-- Fewer requests fit as well. -/
theorem Awaits.sublist {subscriberHandle : Option Nat} {rs rs' : List JanusRequest}
    (h : Awaits subscriberHandle rs) (hrs : rs'.Sublist rs) : Awaits subscriberHandle rs' := by
  cases subscriberHandle with
  | none => exact ⟨Nat.le_trans hrs.length_le h.1, fun r hr ↦ h.2 r (hrs.subset hr)⟩
  | some g => exact fun r hr ↦ h r (hrs.subset hr)

/-- Whether a handle serves depends on it and its session. -/
theorem serves_congr {h : Nat} {role : HandleRole} (hhandle : w.handles[h]? = v.handles[h]?)
    (hphase : ∀ k, w.phase k = v.phase k) : w.serves h role = v.serves h role := by
  simp only [serves, hhandle, hphase]

/-- The subscriber depends on the handles, the session, and the requests for it. -/
theorem Subscribed.congr (h : v.Subscribed) (hjanus : w.janus = v.janus)
    (hphase : ∀ k, w.phase k = v.phase k)
    (hsubscriber : w.subscriberHandle = v.subscriberHandle) (hhandles : w.handles = v.handles)
    (hrequests : w.subscriptions.Sublist v.subscriptions) (hanswers : w.answers = v.answers) :
    w.Subscribed where
  live := by
    obtain ⟨k, hk, hlive⟩ := h.live
    exact ⟨k, hjanus.trans hk, (hphase k).trans hlive⟩
  current g hg := by
    rw [hsubscriber]
    exact h.current g ((serves_congr (by rw [hhandles]) hphase).symm.trans hg)
  held g hg := by
    rw [hhandles]
    exact h.held g (hsubscriber ▸ hg)
  awaits := by
    rw [hsubscriber]
    exact h.awaits.sublist hrequests
  answered := by
    rw [hanswers]
    exact h.answered

/-- Answering a request leaves the others. -/
theorem subscriptions_erase (r : JanusRequest) (v : ViewerState) :
    (subscriptions { v with requests := v.requests.erase r }).Sublist v.subscriptions :=
  (List.erase_sublist ..).filter _

/-- Listing the participants is no request for a subscriber. -/
theorem subscriptions_requestAndAttachPublisher (v : ViewerState) :
    v.requestAndAttachPublisher.subscriptions = v.subscriptions := by
  unfold requestAndAttachPublisher
  split
  · split
    · simp [subscriptions, request, JanusRequest.ofSubscription]
    · rfl
  · rfl

/-- Listing the participants keeps the subscriber. -/
theorem Subscribed.requestAndAttachPublisher (h : v.Subscribed) :
    v.requestAndAttachPublisher.Subscribed := by
  have hrequests := v.subscriptions_requestAndAttachPublisher
  rw [requestAndAttachPublisher_eq] at hrequests ⊢
  exact h.congr rfl (fun _ ↦ rfl) rfl rfl (hrequests ▸ List.Sublist.refl _) rfl

/-- A detach closes the handle that is attached, with its requests, and no other. -/
theorem detach_attached {g : Nat} {p : PluginHandle} (hp : v.handles[g]? = some p)
    (hattached : p.attached = true) :
    (v.detach g).handles[g]? = some { p with attached := false, pc := false } ∧
      (∀ j, j ≠ g → (v.detach g).handles[j]? = v.handles[j]?) ∧
      (v.detach g).requests = v.requests.filter (fun r ↦ !r.runsOn g) := by
  have hlt : g < v.handles.length := (List.getElem?_eq_some_iff.mp hp).1
  have hcleanup : (v.cleanupWebrtc g).handles = v.handles.set g { p with pc := false } ∧
      (v.cleanupWebrtc g).requests = v.requests.filter (fun r ↦ !r.runsOn g) := by
    unfold cleanupWebrtc
    simp only [hp, hattached, if_true]
    split <;> exact ⟨rfl, rfl⟩
  simp only [detach, hcleanup]
  refine ⟨?_, ?_, trivial⟩
  · rw [List.getElem?_modify_eq, List.getElem?_set_self hlt]
    rfl
  · intro j hj
    rw [List.getElem?_modify_ne _ _ (Ne.symm hj), List.getElem?_set_ne (Ne.symm hj)]

/-- Without its subscriber the viewer has none. -/
theorem Subscribed.detachSubscriber (h : v.Subscribed) : v.detachSubscriber.Subscribed := by
  cases hsubscriber : v.subscriberHandle with
  | none =>
    have hsame : v.detachSubscriber = v := by simp only [ViewerState.detachSubscriber, hsubscriber]
    rw [hsame]
    exact h
  | some g =>
    obtain ⟨p, hp, hattached⟩ := h.held g hsubscriber
    obtain ⟨hself, hother, hrequests⟩ := detach_attached hp hattached
    have hdetach : v.detachSubscriber = { v.detach g with subscriberHandle := none } := by
      simp only [ViewerState.detachSubscriber, hsubscriber]
    have heq := v.detach_eq g
    have hnone : v.detachSubscriber.subscriptions = [] := by
      have hawaits : ∀ r ∈ v.subscriptions, r = .createAnswer g g := by
        have hawaits := h.awaits
        rwa [hsubscriber] at hawaits
      rw [hdetach]
      simp only [subscriptions, hrequests, List.filter_filter]
      refine List.filter_eq_nil_iff.mpr fun r hr hboth ↦ ?_
      obtain ⟨hsubscription, hkept⟩ := Bool.and_eq_true_iff.mp hboth
      rw [hawaits r (List.mem_filter.mpr ⟨hr, hsubscription⟩)] at hkept
      simp [JanusRequest.runsOn] at hkept
    have hlive : v.detachSubscriber.janus = v.janus ∧
        ∀ k, v.detachSubscriber.phase k = v.phase k := by
      rw [detachSubscriber_eq]
      exact ⟨rfl, fun _ ↦ rfl⟩
    refine ⟨?_, ?_, ?_, ?_, ?_⟩
    · obtain ⟨k, hk, hphase⟩ := h.live
      exact ⟨k, hlive.1.trans hk, (hlive.2 k).trans hphase⟩
    · intro j hj
      exfalso
      by_cases hjg : j = g
      · subst hjg
        rw [hdetach] at hj
        simp [serves, hself] at hj
      · have hhandle : v.detachSubscriber.handles[j]? = v.handles[j]? := by
          rw [hdetach]
          exact hother j hjg
        have hserves : v.serves j .subscriber = true :=
          (serves_congr hhandle hlive.2).symm.trans hj
        exact hjg (Option.some.inj ((h.current j hserves).symm.trans hsubscriber))
    · intro j hj
      rw [hdetach] at hj
      exact absurd hj (by simp)
    · rw [hnone, hdetach]
      exact ⟨Nat.zero_le 1, by simp⟩
    · rw [detachSubscriber_eq]
      exact h.answered

/-- Detaching the subscriber makes no request. -/
theorem requests_detachSubscriber (v : ViewerState) :
    v.detachSubscriber.requests.Sublist v.requests := by
  unfold detachSubscriber
  split
  · simp only [detach, cleanupWebrtc]
    split
    · split
      · split <;> exact List.filter_sublist
      · exact List.Sublist.refl _
    · exact List.Sublist.refl _
  · exact List.Sublist.refl _

/-- A subscriber is attached only when there is none, and none is requested. -/
theorem Subscribed.attachSubscriber (h : v.Subscribed) (feedId : Nat)
    (hnone : v.subscriberHandle = none) (hrequests : v.subscriptions = []) :
    (v.attachSubscriber feedId).Subscribed := by
  obtain ⟨k, hk, hlive⟩ := h.live
  have hattach : v.attachSubscriber feedId =
      { v with selectedFeedId := some feedId }.request (.attach k .subscriber) := by
    simp only [ViewerState.attachSubscriber, attach, hk]
    exact if_pos hlive
  have hsubscriptions : (v.attachSubscriber feedId).subscriptions = [.attach k .subscriber] := by
    rw [hattach]
    have hfilter : v.requests.filter JanusRequest.ofSubscription = [] := hrequests
    simp [subscriptions, request, hfilter, JanusRequest.ofSubscription]
  refine ⟨?_, ?_, ?_, ?_, ?_⟩
  · rw [hattach]
    exact ⟨k, hk, hlive⟩
  · rw [hattach]
    exact h.current
  · rw [hattach]
    exact h.held
  · have hhandle : (v.attachSubscriber feedId).subscriberHandle = none := by
      rw [hattach]
      exact hnone
    rw [hhandle, hsubscriptions]
    exact ⟨Nat.le_refl 1, fun r hr ↦ ⟨k, List.mem_singleton.mp hr⟩⟩
  · rw [hattach]
    exact h.answered

/-- The answer of `listparticipants`. -/
theorem Subscribed.onParticipants (h : v.Subscribed) {participants : List Participant}
    (halone : v.reattaches participants = true →
      ∀ r ∈ v.requests, r.attachesSubscriber = false) :
    (v.onParticipants participants).Subscribed := by
  cases hfind : participants.find? Participant.publishes with
  | none =>
    simp only [ViewerState.onParticipants, hfind]
    exact h.congr rfl (fun _ ↦ rfl) rfl rfl (List.Sublist.refl _) rfl
  | some p =>
    cases hsame : (v.selectedFeedId = some p.id && v.subscriberHandle.isSome : Bool) with
    | true =>
      simp only [ViewerState.onParticipants, hfind, hsame, if_true]
      exact h
    | false =>
      have halone := halone (by simp only [reattaches, hfind, hsame, Bool.not_false])
      have hdetached := h.detachSubscriber
      have hhandle : v.detachSubscriber.subscriberHandle = none := by rw [detachSubscriber_eq]
      have hrequests : v.detachSubscriber.subscriptions = [] := by
        refine List.eq_nil_iff_forall_not_mem.mpr fun r hr ↦ ?_
        have hawaits := hdetached.awaits
        rw [hhandle] at hawaits
        obtain ⟨k, rfl⟩ := hawaits.2 r hr
        have hmem := v.requests_detachSubscriber.subset (List.mem_filter.mp hr).1
        exact absurd (halone _ hmem) (by simp [JanusRequest.attachesSubscriber])
      simp only [ViewerState.onParticipants, hfind, hsame]
      rw [if_neg (by decide)]
      exact hdetached.attachSubscriber p.id hhandle hrequests

/-- A new handle is the last one. -/
theorem serves_append {h : Nat} {role : HandleRole} {p : PluginHandle}
    (hserves : serves h role { v with handles := v.handles ++ [p] } = true) :
    v.serves h role = true ∨ (h = v.handles.length ∧ p.role = role) := by
  rcases Nat.lt_trichotomy h v.handles.length with hlt | rfl | hgt
  · refine .inl ?_
    simpa [serves, phase, List.getElem?_append_left hlt] using hserves
  · refine .inr ⟨rfl, ?_⟩
    simp only [serves, List.getElem?_concat_length, Bool.and_eq_true, decide_eq_true_eq] at hserves
    exact hserves.1.2
  · have hnone : (v.handles ++ [p])[h]? = none := by
      rw [List.getElem?_eq_none_iff, List.length_append, List.length_singleton]
      omega
    simp [serves, hnone] at hserves

/-- A handle that was held is still there. -/
theorem Subscribed.held_append (h : v.Subscribed) (p : PluginHandle) (g : Nat)
    (hg : v.subscriberHandle = some g) :
    ∃ q, (v.handles ++ [p])[g]? = some q ∧ q.attached = true := by
  obtain ⟨q, hq, hattached⟩ := h.held g hg
  refine ⟨q, ?_, hattached⟩
  rw [List.getElem?_append_left (List.getElem?_eq_some_iff.mp hq).1]
  exact hq

/-- The success of an attach that was requested. -/
theorem Subscribed.onAttached (h : v.Subscribed) {k : Nat} {role : HandleRole}
    (hrequest : .attach k role ∈ v.requests) :
    (ViewerState.onAttached k role
      { v with requests := v.requests.erase (.attach k role) }).Subscribed := by
  have hfewer := v.subscriptions_erase (.attach k role)
  cases role with
  | manager =>
    apply Subscribed.requestAndAttachPublisher
    refine ⟨h.live, ?_, ?_, h.awaits.sublist hfewer, h.answered⟩
    · intro g hg
      rcases serves_append (v := v) hg with hserves | ⟨-, hrole⟩
      · exact h.current g hserves
      · exact absurd hrole (by simp)
    · exact fun g hg ↦ h.held_append _ g hg
  | subscriber =>
    have hmem : .attach k .subscriber ∈ v.subscriptions :=
      List.mem_filter.mpr ⟨hrequest, by simp [JanusRequest.ofSubscription]⟩
    have hnone : v.subscriberHandle = none := by
      cases hsubscriber : v.subscriberHandle with
      | none => rfl
      | some g =>
        have hawaits := h.awaits
        rw [hsubscriber] at hawaits
        exact absurd (hawaits _ hmem) (by simp)
    have hempty : (v.requests.erase (.attach k .subscriber)).filter
        JanusRequest.ofSubscription = [] := by
      have hperm := (List.perm_cons_erase hrequest).filter JanusRequest.ofSubscription
      have hlength := hperm.length_eq
      have hawaits := h.awaits
      rw [hnone] at hawaits
      have hone : (v.requests.filter JanusRequest.ofSubscription).length ≤ 1 := hawaits.1
      rw [List.filter_cons_of_pos (by simp [JanusRequest.ofSubscription]),
        List.length_cons] at hlength
      exact List.eq_nil_of_length_eq_zero (by omega)
    refine ⟨h.live, ?_, ?_, ?_, h.answered⟩
    · intro g hg
      rcases serves_append (v := v) hg with hserves | ⟨rfl, -⟩
      · have hcurrent := h.current g hserves
        rw [hnone] at hcurrent
        exact absurd hcurrent (by simp)
      · rfl
    · intro g hg
      obtain rfl : v.handles.length = g := Option.some.inj hg
      exact ⟨_, List.getElem?_concat_length, rfl⟩
    · intro r hr
      have hr : r ∈ (v.requests.erase (.attach k .subscriber)).filter
        JanusRequest.ofSubscription := hr
      rw [hempty] at hr
      exact absurd hr List.not_mem_nil

/-- An offer for the subscriber is answered by it. -/
theorem Subscribed.onOffer (h : v.Subscribed) {g : Nat} (hg : v.serves g .subscriber = true) :
    (v.onOffer g).Subscribed := by
  have hsubscriber := h.current g hg
  obtain ⟨p, hp, hattached⟩ := h.held g hsubscriber
  have hoffer : v.onOffer g = { v with
      answers := v.answers ++ [(g, some g)]
      handles := v.handles.modify g (fun p ↦ { p with pc := true })
      requests := v.requests ++ [.createAnswer g g] } := by
    simp [ViewerState.onOffer, hsubscriber, hp, hattached, request]
  have hself : (v.handles.modify g (fun p ↦ { p with pc := true }))[g]? =
      some { p with pc := true } := by
    rw [List.getElem?_modify_eq, hp]
    rfl
  have hother (j : Nat) (hjg : g ≠ j) :
      (v.onOffer g).serves j .subscriber = v.serves j .subscriber := by
    rw [hoffer]
    refine serves_congr ?_ (fun _ ↦ rfl)
    exact List.getElem?_modify_ne _ _ hjg
  rw [hoffer] at hother ⊢
  refine ⟨h.live, ?_, ?_, ?_, ?_⟩
  · intro j hj
    by_cases hjg : g = j
    · rw [← hjg]
      exact hsubscriber
    · exact h.current j ((hother j hjg).symm.trans hj)
  · intro j hj
    obtain rfl : g = j := Option.some.inj (hsubscriber.symm.trans hj)
    exact ⟨_, hself, hattached⟩
  · have hawaits := h.awaits
    simp only [hsubscriber] at hawaits ⊢
    intro r hr
    simp only [subscriptions, List.filter_append, List.mem_append] at hr
    rcases hr with hr | hr
    · exact hawaits r hr
    · exact List.mem_singleton.mp (List.mem_filter.mp hr).1
  · intro a ha
    rcases List.mem_append.mp ha with ha | ha
    · exact h.answered a ha
    · rw [List.mem_singleton.mp ha]

/-- The answer to an offer is sent by the subscriber that received it. -/
theorem Subscribed.onAnswer (h : v.Subscribed) {offered g : Nat}
    (hrequest : .createAnswer offered g ∈ v.requests) :
    (ViewerState.onAnswer offered
      { v with requests := v.requests.erase (.createAnswer offered g) }).Subscribed := by
  have hmem : .createAnswer offered g ∈ v.subscriptions :=
    List.mem_filter.mpr ⟨hrequest, by simp [JanusRequest.ofSubscription]⟩
  have hsubscriber : v.subscriberHandle = some offered := by
    have hawaits := h.awaits
    cases hsubscriber : v.subscriberHandle with
    | none =>
      rw [hsubscriber] at hawaits
      obtain ⟨k, hk⟩ := hawaits.2 _ hmem
      exact absurd hk (by simp)
    | some x =>
      rw [hsubscriber] at hawaits
      have hsame := hawaits _ hmem
      rw [(JanusRequest.createAnswer.inj hsame).1]
  refine ⟨h.live, h.current, h.held, h.awaits.sublist (v.subscriptions_erase _), ?_⟩
  intro a ha
  rcases List.mem_append.mp ha with ha | ha
  · exact h.answered a ha
  · rw [List.mem_singleton.mp ha]
    exact hsubscriber

/-- Asking the session in `janus` to end keeps the subscriber until the answer comes. -/
theorem Subscribed.destroySession (h : v.Subscribed) : v.destroySession.Subscribed := by
  obtain ⟨k, hk, hlive⟩ := h.live
  rcases v.destroySession_cases with ⟨j, -, -, heq⟩ | ⟨hdead, -⟩
  · have hphase (i : Nat) : v.destroySession.phase i = v.phase i := by
      rw [heq]
      by_cases hij : j = i
      · subst hij
        simp only [phase, List.getElem?_modify_eq]
        cases v.sessions[j]? <;> rfl
      · simp only [phase, List.getElem?_modify_ne _ _ hij]
    rw [heq] at hphase ⊢
    exact h.congr rfl hphase rfl rfl (List.Sublist.refl _) rfl
  · exact absurd hlive (hdead k hk)

/-- A local re-subscribe leaves none. -/
theorem Subscribed.resubscribe (h : v.Subscribed) (now : Nat) : (v.resubscribe now).Subscribed := by
  have hforgotten : Subscribed { v.detachSubscriber with selectedFeedId := none } :=
    h.detachSubscriber.congr rfl (fun _ ↦ rfl) rfl rfl (List.Sublist.refl _) rfl
  simp only [ViewerState.resubscribe]
  split
  · exact hforgotten.requestAndAttachPublisher.congr rfl (fun _ ↦ rfl) rfl rfl
      (List.Sublist.refl _) rfl
  · exact hforgotten.congr rfl (fun _ ↦ rfl) rfl rfl (List.Sublist.refl _) rfl

/-- A sample detaches the subscriber, asks the session to end, or does nothing to them. -/
theorem Subscribed.onStats (h : v.Subscribed) (bytesReceived : Option Nat) (now : Nat) :
    (v.onStats bytesReceived now).Subscribed := by
  have hquality (q : Quality) : Subscribed { v with quality := q } :=
    h.congr rfl (fun _ ↦ rfl) rfl rfl (List.Sublist.refl _) rfl
  have hcounted := hquality ((v.quality.receive bytesReceived now).count now)
  unfold ViewerState.onStats
  simp only
  split
  · split
    · exact hcounted.resubscribe now
    · apply Subscribed.destroySession
      exact hcounted.congr rfl (fun _ ↦ rfl) rfl rfl (List.Sublist.refl _) rfl
  · exact hquality _

/-- Every event of the session keeps its subscriber, when it attaches one alone. -/
theorem subscribed_step {e : ViewerEvent} (h : v.Subscribed) (he : e.ofSubscription = true)
    (halone : v.attachesAlone e = true) (hw : v.step e = some w) : w.Subscribed := by
  obtain ⟨henabled, hw⟩ := step_some.mp hw
  have herase (r : JanusRequest) : Subscribed { v with requests := v.requests.erase r } :=
    h.congr rfl (fun _ ↦ rfl) rfl rfl (v.subscriptions_erase r) rfl
  cases e with
  | attached k role =>
    obtain ⟨hrequest, rfl⟩ := answer_map_some.mp hw
    exact h.onAttached hrequest
  | attachFailed k role =>
    obtain ⟨-, rfl⟩ := answer_map_some.mp hw
    unfold onAttachError
    split
    · exact (herase _).congr rfl (fun _ ↦ rfl) rfl rfl (List.Sublist.refl _) rfl
    · exact herase _
  | participants k participants =>
    obtain ⟨-, rfl⟩ := answer_map_some.mp hw
    refine (herase _).onParticipants fun hreattaches r hr ↦ ?_
    have hreattaches : v.reattaches participants = true := hreattaches
    simp only [attachesAlone, hreattaches, Bool.not_true, Bool.false_or, List.all_eq_true,
      Bool.not_eq_true'] at halone
    exact halone r (List.mem_of_mem_erase hr)
  | publishersChanged handle =>
    cases hw
    exact h.requestAndAttachPublisher
  | noSuchFeed handle =>
    cases hw
    apply Subscribed.requestAndAttachPublisher
    exact h.detachSubscriber.congr rfl (fun _ ↦ rfl) rfl rfl (List.Sublist.refl _) rfl
  | offer handle =>
    cases hw
    exact h.onOffer henabled
  | answered offered handle =>
    obtain ⟨hrequest, rfl⟩ := answer_map_some.mp hw
    exact h.onAnswer hrequest
  | remoteTrack handle added now =>
    cases hw
    unfold onremotetrack
    split
    · exact h.congr rfl (fun _ ↦ rfl) rfl rfl (List.Sublist.refl _) rfl
    · exact h
  | sample =>
    cases hw
    have hstats : (v.request .getStats).subscriptions = v.subscriptions := by
      simp [subscriptions, request, JanusRequest.ofSubscription]
    unfold onSample
    split
    · split
      · exact h.congr rfl (fun _ ↦ rfl) rfl rfl (hstats ▸ List.Sublist.refl _) rfl
      · exact h
    · exact h
  | stats bytesReceived now =>
    obtain ⟨-, rfl⟩ := answer_map_some.mp hw
    exact (herase _).onStats bytesReceived now
  | listFailed k | answerFailed offered handle | statsFailed =>
    obtain ⟨-, rfl⟩ := answer_some.mp hw
    exact herase _
  | _ => exact absurd he (by simp [ViewerEvent.ofSubscription])

end ViewerState

/-- A session is up, and its manager is being attached. -/
private def connected : List ViewerEvent := [.editRoom true, .connectBtn, .created 0]

/-- The state after events that can happen one after the other. -/
private def stateAfterConnect : ViewerState :=
  (run ViewerState.step .initial connected).getD .initial

private theorem sessionUp_connected : stateAfterConnect.SessionUp where
  live := ⟨0, rfl, rfl⟩
  subscriberHandle := rfl
  handles _ := rfl
  subscriptions := rfl
  answers _ ha := absurd ha List.not_mem_nil

/-- Two lists of the participants are answered before the first subscriber is attached. -/
private def listedTwice : List ViewerEvent :=
  [.attached 0 .manager, .publishersChanged 0, .participants 0 [⟨7, 1, false⟩],
    .participants 0 [⟨7, 1, false⟩], .attached 0 .subscriber, .attached 0 .subscriber]

/-- Two subscribers are attached when the participants are listed twice. -/
theorem two_subscribers :
    ¬ ∀ v : ViewerState, v.SessionUp → ∀ es, (∀ e ∈ es, e.ofSubscription = true) →
      ∀ w, run ViewerState.step v es = some w → w.SubscribesOnce := by
  intro h
  have hsingle := (h _ sessionUp_connected listedTwice (by decide) _ rfl).single 1 2 rfl rfl
  exact absurd hsingle (by decide)

/-- In every run of a session that attaches each subscriber while no other attach is in flight, at
most one subscriber is attached, it is the one in `subscriberHandle`, and every offer is answered
on the handle that received it. -/
theorem subscribesOnce_of_alone {v : ViewerState} (hup : v.SessionUp) {es : List ViewerEvent}
    (hes : ∀ e ∈ es, e.ofSubscription = true)
    (hmeet : StepsMeet (fun v e ↦ v.attachesAlone e = true) ViewerState.step v es) {w : ViewerState}
    (h : run ViewerState.step v es = some w) : w.SubscribesOnce := by
  have hsteps : StepsMeet (fun v e ↦ e.ofSubscription = true ∧ v.attachesAlone e = true)
      ViewerState.step v es := by
    rintro pre e post u rfl hu
    exact ⟨hes e (by simp), hmeet pre e post u rfl hu⟩
  have hsubscribed : w.Subscribed :=
    run_invariant_of_meet hup.subscribed
      (fun _ _ _ hu he ht ↦ ViewerState.subscribed_step hu he.1 he.2 ht) hsteps h
  exact hsubscribed.subscribesOnce

/-- A subscriber answers its offer, loses its feed, and is followed by another one. -/
private def feedReplaced : List ViewerEvent :=
  [.attached 0 .manager, .participants 0 [⟨7, 1, false⟩], .attached 0 .subscriber, .offer 1,
    .answered 1 1, .noSuchFeed 1, .participants 0 [⟨8, 1, false⟩], .attached 0 .subscriber,
    .offer 2, .answered 2 2]

/-- Each of the two subscribers was the only one, and answered its own offer. -/
theorem subscribesOnce_replaced :
    ∃ w, run ViewerState.step stateAfterConnect feedReplaced = some w ∧ w.SubscribesOnce := by
  refine ⟨_, rfl, ?_⟩
  exact @subscribesOnce_of_alone _ sessionUp_connected feedReplaced (by decide) (by decide) _ rfl

end Esp32Robot.Viewer
