import QuobyteMesos.KnownHosts

/-! Which hosts a restriction lets in.

The flag is documented as a list of host names, but the host of an offer is
searched for in its text, so that a host whose name stands within that of a listed
one is let in as well. -/
namespace QuobyteMesos

/-- The hosts the flag lists, as it is documented. -/
def Flags.restrictedHosts (flags : Flags) : List String :=
  (flags.restrictHosts.toList.splitOn ',').map String.ofList

namespace HostRestriction
open Mesos Machine StdString SchedulerRuns SchedulerSteps LaunchSteps KnownHosts

variable {R : Type} [Resources R] {config : Config R} {s s' : Scheduler} {now : Int}
variable {offer : Offer R} {hostname : String}

/-- The offer is declined at once, and the scheduler is as it was. -/
def DeclinedUnseen (config : Config R) (s : Scheduler) (now : Int) (offer : Offer R) : Prop :=
  handleOffer config s now offer = .ok (s, [.declineOffer offer.id])

/-- Some offer of the host is not just declined. -/
def Considers (config : Config R) (hostname : String) : Prop :=
  ∃ s now, ∃ offer : Offer R, offer.hostname = hostname ∧ ¬ DeclinedUnseen config s now offer

/-- The entry does not show the current reading already. -/
def Unstamped (s : Scheduler) (now : Int) (hostname : String) : Prop :=
  ∀ times, s.times hostname = some times → times.lastOfferS ≠ now

/-- An offer of a known host that is let in leaves its reading in the entry. -/
private theorem stamped {node : NodeState} {calls : List (DriverCall R)}
    (admitted : ignoresHost config.flags offer.hostname = false)
    (known : s.nodes[offer.hostname]? = some node)
    (answered : Answered config s now offer s' calls) :
    ∃ times, s'.times offer.hostname = some times ∧ times.lastOfferS = now := by
  have stored (records : Records) (reading : records.node.lastOfferS = now) :
      ∃ times, (s.store offer.hostname records).times offer.hostname = some times ∧
        times.lastOfferS = now := by
    rw [times_store, if_pos rfl]
    exact ⟨_, rfl, reading⟩
  cases answered with
  | restricted ignored => rw [admitted] at ignored; cases ignored
  | discovered unknown => rw [known] at unknown; cases unknown
  | prober | shutdown => exact stored _ rfl
  | probe node known due =>
    obtain ⟨times, found, reading⟩ :=
      stored (s.records { node with lastOfferS := now, lastProbeS := now }) rfl
    refine ⟨times, ?_, reading⟩
    rw [triggerProbe, reconcileHost, times_createHost, found]
    simp
  | @launch node round due ran =>
    have progress := progress_steps (start_services_steps ran)
    apply stored
    rw [progress.node]
    rfl

/-- An offer is declined unseen if its host is ignored, and only then, as far as the
clock lets it be seen. -/
theorem declined_unseen_iff (unstamped : Unstamped s now offer.hostname) :
    DeclinedUnseen config s now offer ↔ ignoresHost config.flags offer.hostname = true := by
  constructor
  · intro declined
    by_contra seen
    have admitted := Bool.of_not_eq_true seen
    have answered := offer_cases declined
    cases known : s.nodes[offer.hostname]? with
    | none =>
      unfold DeclinedUnseen handleOffer at declined
      rw [admitted, known] at declined
      simp [reconcileHost] at declined
    | some node =>
      obtain ⟨times, found, reading⟩ := stamped admitted known answered
      exact unstamped times found reading
  · intro ignored
    rw [DeclinedUnseen, handleOffer, if_pos ignored]

theorem considers_iff (config : Config R) (hostname : String) :
    Considers config hostname ↔ ignoresHost config.flags hostname = false := by
  constructor
  · rintro ⟨s, now, offer, rfl, seen⟩
    by_contra ignored
    refine seen ?_
    rw [DeclinedUnseen, handleOffer, if_pos (Bool.of_not_eq_false ignored)]
  · intro admitted
    -- the first offer of the host
    refine ⟨Scheduler.fresh {}, 0, ⟨"", hostname, "", config.resources .prober⟩, rfl, ?_⟩
    have unstamped : Unstamped (Scheduler.fresh {}) 0 hostname := by
      simp [Unstamped, Scheduler.times, Scheduler.fresh]
    rw [declined_unseen_iff unstamped, admitted]
    simp

/-- A restriction ignores the hosts whose names do not stand in its text. -/
theorem ignoresHost_iff {flags : Flags} (restricted : flags.restrictHosts ≠ "") :
    ignoresHost flags hostname = false ↔ hostname.toList <:+: flags.restrictHosts.toList := by
  rw [← find_isSome_iff]
  simp [ignoresHost, restricted]

private theorem listed_stands {flags : Flags} (listed : hostname ∈ flags.restrictedHosts) :
    hostname.toList <:+: flags.restrictHosts.toList := by
  obtain ⟨part, member, rfl⟩ := List.mem_map.mp listed
  rw [String.toList_ofList]
  exact infix_of_mem_splitOn member

/-- A restriction lets in exactly the hosts it lists if and only if every host whose
name stands in its text is listed. What is done with one offer shows whether its
host is let in, in any state whose entry for the host does not show the current
reading already. -/
theorem restriction_exact_iff (config : Config R) (restricted : config.flags.restrictHosts ≠ "")
    (hostname : String) :
    ((Considers config hostname ↔ hostname ∈ config.flags.restrictedHosts) ↔
      (hostname ∈ config.flags.restrictedHosts ∨
        ¬ hostname.toList <:+: config.flags.restrictHosts.toList)) ∧
    ∀ s now, ∀ offer : Offer R, offer.hostname = hostname → Unstamped s now hostname →
      (Considers config hostname ↔ ¬ DeclinedUnseen config s now offer) := by
  constructor
  · rw [considers_iff, ignoresHost_iff restricted]
    constructor
    · intro agree
      by_cases listed : hostname ∈ config.flags.restrictedHosts
      · exact .inl listed
      · exact .inr (mt agree.mp listed)
    · rintro (listed | absent)
      · exact iff_of_true (listed_stands listed) listed
      · exact iff_of_false absent (mt listed_stands absent)
  · rintro s now offer rfl unstamped
    rw [considers_iff, declined_unseen_iff unstamped]
    simp

/-! ### Addresses for host names -/

/-- A restriction to two of the hosts, which go by their addresses. -/
def restrictedConfig : Config TextResources :=
  { defaultConfig with flags := { restrictHosts := "10.0.0.12,10.0.0.13" } }

/-- A host with an address that stands in neither of the two is ignored. -/
theorem other_host_ignored :
    Considers restrictedConfig "10.0.0.2" ↔ "10.0.0.2" ∈ restrictedConfig.flags.restrictedHosts := by
  have restricted : restrictedConfig.flags.restrictHosts ≠ "" := by decide
  refine (restriction_exact_iff restrictedConfig restricted "10.0.0.2").1.mpr (.inr ?_)
  decide

/-- A host whose address is cut from the front of a listed one is given an entry. -/
theorem shorter_address_considered :
    "10.0.0.1" ∉ restrictedConfig.flags.restrictedHosts ∧
    (∃ s calls, handleOffer restrictedConfig (Scheduler.fresh {}) 1 (wideOffer "o1" "10.0.0.1") =
      .ok (s, calls) ∧ "10.0.0.1" ∈ s.nodes) ∧
    ¬ (Considers restrictedConfig "10.0.0.1" ↔
      "10.0.0.1" ∈ restrictedConfig.flags.restrictedHosts) := by
  have unlisted : "10.0.0.1" ∉ restrictedConfig.flags.restrictedHosts := by decide +kernel
  have admitted : ignoresHost restrictedConfig.flags "10.0.0.1" = false := by decide +kernel
  have entered : (handleOffer restrictedConfig (Scheduler.fresh {}) 1
      (wideOffer "o1" "10.0.0.1")).toOption.any (fun answer =>
        answer.1.nodes.contains "10.0.0.1") = true := by decide +kernel
  obtain ⟨⟨s, calls⟩, handled, present⟩ := except_any_ok entered
  refine ⟨unlisted, ⟨s, calls, handled, present⟩, fun agree => unlisted (agree.mp ?_)⟩
  exact (considers_iff _ _).mpr admitted

end HostRestriction

end QuobyteMesos
