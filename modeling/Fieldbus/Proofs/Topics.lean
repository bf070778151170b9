import Fieldbus.Bus.Operator
import Mathlib.Logic.ExistsUnique

/-!
# Topics and ids

A topic that is made from an id gives the id back, whatever the id is, also if the id itself ends
like a topic. The two ends are of one length and differ, so no topic has both.

* `stem?_eq_some_iff`: what stands in front of a suffix.
* `subscriberId?_eq_some_iff`, `publisherId?_eq_some_iff`: the ids that topics belong to.
* `accepts_iff`: the one topic that an endpoint accepts.
* **`topics_invertible`**: topics and ids belong together, and an operator is warned of exactly
  the topics that no endpoint accepts.
-/

namespace Fieldbus

variable {suffix topic id : String}

/-- What stands in front of a suffix is what the suffix was put behind. -/
theorem stem?_eq_some_iff : stem? suffix topic = some id ↔ id ≠ "" ∧ topic = id ++ suffix := by
  have nonempty : id ≠ "" ↔ 0 < id.toList.length := by
    rw [List.length_pos_iff, ne_eq, ne_eq, String.toList_eq_nil_iff]
  rw [nonempty, ← String.toList_inj, String.toList_append]
  simp only [stem?]
  constructor
  · intro h
    split at h
    · next cut =>
      obtain rfl := Option.some.inj h
      rw [String.toList_ofList]
      refine ⟨?_, ?_⟩
      · rw [List.length_take]
        omega
      · calc topic.toList
          _ = topic.toList.take _ ++ topic.toList.drop _ := (List.take_append_drop _ _).symm
          _ = _ := by rw [cut.2]
    · cases h
  · rintro ⟨pos, same⟩
    have cut : topic.toList.length - suffix.toList.length = id.toList.length := by
      rw [same, List.length_append]
      omega
    rw [cut, same, List.drop_left, List.take_left, if_pos ⟨pos, rfl⟩, String.ofList_toList]

theorem subscriberId?_eq_some_iff :
    subscriberId? topic = some id ↔ id ≠ "" ∧ topic = (Topics.ofId id).subscribe :=
  stem?_eq_some_iff

theorem publisherId?_eq_some_iff :
    publisherId? topic = some id ↔ id ≠ "" ∧ topic = (Topics.ofId id).publish :=
  stem?_eq_some_iff

theorem subscribe_ne_publish (a b : String) :
    (Topics.ofId a).subscribe ≠ (Topics.ofId b).publish := by
  intro same
  have same := congrArg String.toList same
  simp only [Topics.ofId, String.toList_append] at same
  have length : subscribeSuffix.toList.length = publishSuffix.toList.length := by decide
  have ends := (List.append_inj' same length).2
  exact absurd ends (by decide)

/-- An endpoint accepts the topic that is made from its id, and no other. -/
theorem accepts_iff : (Topics.ofId id).accepts (utf8 topic) = true ↔
    topic = (Topics.ofId id).subscribe := by
  rw [Topics.accepts, decide_eq_true_iff, utf8_inj]

theorem subscribe_inj {a b : String} :
    (Topics.ofId a).subscribe = (Topics.ofId b).subscribe ↔ a = b :=
  String.append_left_inj subscribeSuffix

/-- An operator is not warned of a topic that belongs to an id. -/
theorem topicWarning_eq_none_iff :
    topicWarning topic = none ↔ ∃ id, subscriberId? topic = some id := by
  unfold topicWarning
  cases subscriberId? topic <;> simp

/-- **Topics and ids belong together.** The id that a topic belongs to is the one, if it is not
empty, that the topic is made from; no topic belongs to ids in both ways; an endpoint
accepts the topic made from an id only if the id is its own; and an operator is not warned of a
topic if and only if there is exactly one id whose endpoint accepts it. -/
theorem topics_invertible (topic : String) :
    (∀ id, subscriberId? topic = some id ↔ id ≠ "" ∧ topic = (Topics.ofId id).subscribe) ∧
    (∀ id, publisherId? topic = some id ↔ id ≠ "" ∧ topic = (Topics.ofId id).publish) ∧
    (subscriberId? topic = none ∨ publisherId? topic = none) ∧
    (∀ a b, (Topics.ofId b).accepts (utf8 (Topics.ofId a).subscribe) = true ↔ a = b) ∧
    (topicWarning topic = none ↔
      ∃! id, id ≠ "" ∧ (Topics.ofId id).accepts (utf8 topic) = true) := by
  refine ⟨fun id => subscriberId?_eq_some_iff, fun id => publisherId?_eq_some_iff, ?_,
    fun a b => ?_, ?_⟩
  · cases ha : subscriberId? topic with
    | none => exact .inl rfl
    | some a =>
      refine .inr (Option.eq_none_iff_forall_ne_some.mpr fun b hb => ?_)
      have receives := (subscriberId?_eq_some_iff.mp ha).2
      have publishes := (publisherId?_eq_some_iff.mp hb).2
      exact subscribe_ne_publish a b (receives.symm.trans publishes)
  · rw [accepts_iff, subscribe_inj]
  · rw [topicWarning_eq_none_iff]
    simp only [subscriberId?_eq_some_iff, accepts_iff]
    constructor
    · rintro ⟨id, nonempty, rfl⟩
      refine ⟨id, ⟨nonempty, rfl⟩, fun other h => ?_⟩
      exact (subscribe_inj.mp h.2).symm
    · rintro ⟨id, h, -⟩
      exact ⟨id, h⟩

/-- Only the last of two ends is taken off. -/
example : subscriberId? "a_south_topic_south_topic" = some "a_south_topic" := by decide

end Fieldbus
