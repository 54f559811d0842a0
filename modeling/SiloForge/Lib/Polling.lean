import Mathlib.Data.List.Induction
import Mathlib.Data.List.Nodup
import Mathlib.Data.List.Perm.Subperm
import Mathlib.Order.MinMax

/-!
# Polling a log

A poller asks again and again for the entries that are not older than the latest it has handed on, and hands on those
whose ids are not among the last ones it has seen.

* `Feed` : a state of the log, as the entries it shows and the answers it gives; `poll`, `polled` : a run of polls;
* `Settled` : entries keep their ids, and those that are new are not older than those already shown;
* `mem_polled_iff` : over a settled run, what is handed on is what some state shows, from the start on;
* `HandedOn`, `handedOn_poll` : a poll hands on what is new and nothing twice, while the entries of one time fit into the
  window.
-/

universe u v w

namespace Lib

variable {α : Type u} {ι : Type v} {τ : Type w} [LinearOrder τ]

/-- The latest time handed on, and the ids of the last entries, oldest first. -/
structure Poller (ι : Type v) (τ : Type w) where
  lastSeen : τ
  seen : List ι

namespace Poller

variable {window : Nat}

def push (window : Nat) (p : Poller ι τ) (id : ι) (time : τ) : Poller ι τ where
  lastSeen := max time p.lastSeen
  seen := if window < (p.seen ++ [id]).length then (p.seen ++ [id]).tail else p.seen ++ [id]

theorem mem_push_seen {p : Poller ι τ} {x i : ι} {t : τ} (h : x ∈ (p.push window i t).seen) : x ∈ p.seen ∨ x = i := by
  unfold push at h
  dsimp only at h
  have hmem : x ∈ p.seen ++ [i] := by
    split at h
    · exact List.mem_of_mem_tail h
    · exact h
  simpa using hmem

def takeAll [DecidableEq ι] (window : Nat) (id : α → ι) (time : α → τ) : Poller ι τ → List α → Poller ι τ × List α
  | p, [] => (p, [])
  | p, a :: rest =>
    if id a ∈ p.seen then takeAll window id time p rest
    else
      let (p', out) := takeAll window id time (p.push window (id a) (time a)) rest
      (p', a :: out)

theorem takeAll_cons [DecidableEq ι] (window : Nat) (id : α → ι) (time : α → τ) (p : Poller ι τ) (a : α) (rest : List α) :
    takeAll window id time p (a :: rest) =
      if id a ∈ p.seen then takeAll window id time p rest
      else ((takeAll window id time (p.push window (id a) (time a)) rest).1,
        a :: (takeAll window id time (p.push window (id a) (time a)) rest).2) := rfl

end Poller

structure Feed (α : Type u) {τ : Type w} [LE τ] (time : α → τ) where
  shows : α → Prop
  fetch : τ → List α
  mem_fetch : ∀ since a, a ∈ fetch since ↔ shows a ∧ since ≤ time a

theorem Feed.eq_of_fetch {time : α → τ} {feed other : Feed α time} (h : feed.fetch = other.fetch) : feed = other := by
  have hshows : feed.shows = other.shows := by
    funext a
    have hfeed := feed.mem_fetch (time a) a
    have hother := other.mem_fetch (time a) a
    rw [h] at hfeed
    rw [hfeed] at hother
    simpa using hother
  cases feed
  cases other
  congr

variable [DecidableEq ι] {id : α → ι} {time : α → τ}

def poll (window : Nat) (id : α → ι) (acc : Poller ι τ × List α) (feed : Feed α time) : Poller ι τ × List α :=
  let (p, out) := acc.1.takeAll window id time (feed.fetch acc.1.lastSeen)
  (p, acc.2 ++ out)

/-- The poller after a run of polls from a start, and what it handed on. -/
def pollAll (window : Nat) (id : α → ι) (start : τ) (feeds : List (Feed α time)) : Poller ι τ × List α :=
  feeds.foldl (poll window id) (⟨start, []⟩, [])

def polled (window : Nat) (id : α → ι) (start : τ) (feeds : List (Feed α time)) : List α :=
  (pollAll window id start feeds).2

/-! ## One answer -/

section TakeAll
variable {window : Nat} {p : Poller ι τ} {entries : List α}

theorem Poller.mem_of_takeAll {a : α} (h : a ∈ (p.takeAll window id time entries).2) : a ∈ entries := by
  induction entries generalizing p with
  | nil => exact h
  | cons b rest ih =>
    rw [Poller.takeAll_cons] at h
    split at h
    · exact List.mem_cons_of_mem b (ih h)
    · rcases List.mem_cons.mp h with rfl | h
      · exact List.mem_cons_self ..
      · exact List.mem_cons_of_mem b (ih h)

/-- What is not handed on has the id of an entry that was handed on before. -/
theorem Poller.takeAll_covers {a : α} (h : a ∈ entries) :
    id a ∈ p.seen ∨ ∃ b ∈ (p.takeAll window id time entries).2, id b = id a := by
  induction entries generalizing p with
  | nil => exact absurd h List.not_mem_nil
  | cons c rest ih =>
    rw [Poller.takeAll_cons]
    split
    · rename_i hseen
      rcases List.mem_cons.mp h with rfl | h
      · exact .inl hseen
      · exact ih h
    · rcases List.mem_cons.mp h with rfl | h
      · exact .inr ⟨a, List.mem_cons_self .., rfl⟩
      · rcases ih (p := p.push window (id c) (time c)) h with hseen | ⟨b, hb, heq⟩
        · rcases Poller.mem_push_seen hseen with hseen | heq
          · exact .inl hseen
          · exact .inr ⟨c, List.mem_cons_self .., heq.symm⟩
        · exact .inr ⟨b, List.mem_cons_of_mem c hb, heq⟩

theorem Poller.takeAll_seen {x : ι} (h : x ∈ (p.takeAll window id time entries).1.seen) :
    x ∈ p.seen ∨ ∃ b ∈ (p.takeAll window id time entries).2, id b = x := by
  induction entries generalizing p with
  | nil => exact .inl h
  | cons c rest ih =>
    rw [Poller.takeAll_cons] at h ⊢
    split
    · rename_i hseen
      rw [if_pos hseen] at h
      exact ih h
    · rename_i hnew
      rw [if_neg hnew] at h
      rcases ih h with hseen | ⟨b, hb, heq⟩
      · rcases Poller.mem_push_seen hseen with hseen | heq
        · exact .inl hseen
        · exact .inr ⟨c, List.mem_cons_self .., heq.symm⟩
      · exact .inr ⟨b, List.mem_cons_of_mem c hb, heq⟩

theorem Poller.takeAll_lastSeen :
    (p.takeAll window id time entries).1.lastSeen = p.lastSeen ∨
      ∃ b ∈ (p.takeAll window id time entries).2, time b = (p.takeAll window id time entries).1.lastSeen := by
  induction entries generalizing p with
  | nil => exact .inl rfl
  | cons c rest ih =>
    rw [Poller.takeAll_cons]
    split
    · exact ih
    · rcases ih (p := p.push window (id c) (time c)) with hkept | ⟨b, hb, heq⟩
      · rcases max_choice (time c) p.lastSeen with hmax | hmax
        · exact .inr ⟨c, List.mem_cons_self .., (hkept.trans hmax).symm⟩
        · exact .inl (hkept.trans hmax)
      · exact .inr ⟨b, List.mem_cons_of_mem c hb, heq⟩

theorem Poller.lastSeen_le_takeAll : p.lastSeen ≤ (p.takeAll window id time entries).1.lastSeen := by
  induction entries generalizing p with
  | nil => exact le_rfl
  | cons c rest ih =>
    rw [Poller.takeAll_cons]
    split
    · exact ih
    · exact (le_max_right _ _).trans (ih (p := p.push window (id c) (time c)))

end TakeAll

/-! ## Runs -/

/-- Entries keep their ids in every state, and one that is new is not older than what was shown before. -/
structure Settled (id : α → ι) (feeds : List (Feed α time)) : Prop where
  ids : ∀ feed ∈ feeds, ∀ other ∈ feeds, ∀ a b, feed.shows a → other.shows b → id a = id b → a = b
  ordered : feeds.Pairwise fun feed later => ∀ a, later.shows a → ¬ feed.shows a → ∀ b, feed.shows b → time b ≤ time a

/-- What a poller knows of the entries it has handed on. -/
structure Tracks (id : α → ι) (start : τ) (feeds : List (Feed α time)) (acc : Poller ι τ × List α) : Prop where
  seen : ∀ x ∈ acc.1.seen, ∃ a ∈ acc.2, id a = x
  lastSeen : acc.1.lastSeen = start ∨ ∃ a ∈ acc.2, time a = acc.1.lastSeen
  start_le : start ≤ acc.1.lastSeen
  shown : ∀ a ∈ acc.2, start ≤ time a ∧ ∃ feed ∈ feeds, feed.shows a

section Runs
variable {window : Nat} {start : τ} {feeds : List (Feed α time)} {feed : Feed α time} {acc : Poller ι τ × List α}

theorem Tracks.poll (h : Tracks id start feeds acc) : Tracks id start (feeds ++ [feed]) (poll window id acc feed) := by
  obtain ⟨p, out⟩ := acc
  refine ⟨fun x hx => ?_, ?_, h.start_le.trans Poller.lastSeen_le_takeAll, fun a ha => ?_⟩
  · rcases Poller.takeAll_seen hx with hx | ⟨b, hb, heq⟩
    · obtain ⟨a, ha, heq⟩ := h.seen x hx
      exact ⟨a, List.mem_append_left _ ha, heq⟩
    · exact ⟨b, List.mem_append_right _ hb, heq⟩
  · have hlast : (p.takeAll window id time (feed.fetch p.lastSeen)).1.lastSeen = p.lastSeen ∨ _ :=
      Poller.takeAll_lastSeen
    rcases hlast with hkept | ⟨b, hb, heq⟩
    · refine h.lastSeen.imp (fun hstart => hkept.trans hstart) ?_
      rintro ⟨a, ha, heq⟩
      exact ⟨a, List.mem_append_left _ ha, heq.trans hkept.symm⟩
    · exact .inr ⟨b, List.mem_append_right _ hb, heq⟩
  · rcases List.mem_append.mp ha with ha | ha
    · obtain ⟨hle, shown, hshown, hshows⟩ := h.shown a ha
      exact ⟨hle, shown, List.mem_append_left _ hshown, hshows⟩
    · obtain ⟨hshows, hle⟩ := (feed.mem_fetch _ a).mp (Poller.mem_of_takeAll ha)
      exact ⟨h.start_le.trans hle, feed, List.mem_append_right _ (List.mem_singleton_self _), hshows⟩

theorem pollAll_append :
    pollAll window id start (feeds ++ [feed]) = poll window id (pollAll window id start feeds) feed := by
  rw [pollAll, List.foldl_append]
  rfl

theorem tracks_pollAll : Tracks id start feeds (pollAll window id start feeds) := by
  induction feeds using List.reverseRecOn with
  | nil => exact ⟨fun _ h => absurd h List.not_mem_nil, .inl rfl, le_rfl, fun _ h => absurd h List.not_mem_nil⟩
  | append_singleton feeds feed ih =>
    rw [pollAll_append]
    exact ih.poll

/-- What is handed on is shown by some state, and no older than the start. -/
theorem shown_of_mem_polled {a : α} (h : a ∈ polled window id start feeds) :
    start ≤ time a ∧ ∃ feed ∈ feeds, feed.shows a :=
  tracks_pollAll.shown a h

theorem mem_polled_of_shown (hsettled : Settled id feeds) {a : α} (hstart : start ≤ time a) (hfeed : feed ∈ feeds)
    (hshows : feed.shows a) : a ∈ polled window id start feeds := by
  induction feeds using List.reverseRecOn generalizing feed with
  | nil => exact absurd hfeed List.not_mem_nil
  | append_singleton feeds last ih =>
    have hbefore : Settled id feeds :=
      ⟨fun f hf g hg => hsettled.ids f (List.mem_append_left _ hf) g (List.mem_append_left _ hg),
        (List.pairwise_append.mp hsettled.ordered).1⟩
    have hold : ∀ f ∈ feeds, f.shows a → a ∈ polled window id start (feeds ++ [last]) := by
      intro f hf hshows
      rw [polled, pollAll_append]
      exact List.mem_append_left _ (ih hbefore hf hshows)
    rcases List.mem_append.mp hfeed with hfeed | hfeed
    · exact hold feed hfeed hshows
    · obtain rfl := List.mem_singleton.mp hfeed
      have htracks : Tracks id start feeds (pollAll window id start feeds) := tracks_pollAll
      -- an entry older than the latest one handed on was shown before
      have hseen : ∀ b ∈ (pollAll window id start feeds).2, id b = id a →
          a ∈ polled window id start (feeds ++ [feed]) := by
        intro b hb heq
        obtain ⟨-, f, hf, hb'⟩ := htracks.shown b hb
        have hlast : feed ∈ feeds ++ [feed] := List.mem_append_right _ (List.mem_singleton_self _)
        obtain rfl := hsettled.ids f (List.mem_append_left _ hf) feed hlast b a hb' hshows heq
        exact hold f hf hb'
      by_cases hle : (pollAll window id start feeds).1.lastSeen ≤ time a
      · have hfetched := (feed.mem_fetch _ a).mpr ⟨hshows, hle⟩
        have hcovers : id a ∈ (pollAll window id start feeds).1.seen ∨ ∃ b ∈ (Poller.takeAll window id time
            (pollAll window id start feeds).1 (feed.fetch (pollAll window id start feeds).1.lastSeen)).2, id b = id a :=
          Poller.takeAll_covers hfetched
        rcases hcovers with hid | ⟨b, hb, heq⟩
        · obtain ⟨b, hb, heq⟩ := htracks.seen _ hid
          exact hseen b hb heq
        · have hshown := ((feed.mem_fetch _ b).mp (Poller.mem_of_takeAll hb)).1
          have hlast : feed ∈ feeds ++ [feed] := List.mem_append_right _ (List.mem_singleton_self _)
          obtain rfl := hsettled.ids feed hlast feed hlast b a hshown hshows heq
          rw [polled, pollAll_append]
          exact List.mem_append_right _ hb
      · rcases htracks.lastSeen with hstarted | ⟨b, hb, heq⟩
        · exact absurd (hstarted.le.trans hstart) hle
        · obtain ⟨-, f, hf, hb'⟩ := htracks.shown b hb
          by_cases hold' : f.shows a
          · exact hold f hf hold'
          · have horder := (List.pairwise_append.mp hsettled.ordered).2.2 f hf feed (List.mem_singleton_self _)
            exact absurd (heq ▸ horder a hshows hold' b hb') hle

/-- **Over a settled run** what is handed on is what some state shows, from the start on. -/
theorem mem_polled_iff (hsettled : Settled id feeds) {a : α} :
    a ∈ polled window id start feeds ↔ start ≤ time a ∧ ∃ feed ∈ feeds, feed.shows a :=
  ⟨shown_of_mem_polled, fun ⟨hstart, _, hfeed, hshows⟩ => mem_polled_of_shown hsettled hstart hfeed hshows⟩

end Runs

/-! ## Nothing twice -/

def lastOf {β : Type*} (window : Nat) (l : List β) : List β := l.drop (l.length - window)

theorem lastOf_subset {β : Type*} (window : Nat) (l : List β) : lastOf window l ⊆ l := List.drop_subset _ _

theorem mem_lastOf_append {β : Type*} {window : Nat} {before after : List β} {x : β} (h : after.length < window) :
    x ∈ lastOf window (before ++ x :: after) := by
  unfold lastOf
  rw [List.drop_append_of_le_length (by rw [List.length_append, List.length_cons]; omega)]
  exact List.mem_append_right _ List.mem_cons_self

theorem lastOf_append_singleton {β : Type*} (window : Nat) (l : List β) (x : β) :
    lastOf window (l ++ [x]) =
      if window < (lastOf window l ++ [x]).length then (lastOf window l ++ [x]).tail else lastOf window l ++ [x] := by
  unfold lastOf
  rw [List.length_append, List.length_append, List.length_drop, List.length_singleton]
  by_cases hfull : l.length < window
  · rw [if_neg (by omega), Nat.sub_eq_zero_of_le (by omega), Nat.sub_eq_zero_of_le (by omega)]
    rfl
  · rw [if_pos (by omega), ← List.drop_one, ← List.drop_append_of_le_length (by omega), List.drop_drop]
    congr 1
    omega

section Once

variable {window : Nat} {p : Poller ι τ}

theorem Poller.time_le_takeAll {entries : List α} {b : α} (h : b ∈ (p.takeAll window id time entries).2) :
    time b ≤ (p.takeAll window id time entries).1.lastSeen := by
  induction entries generalizing p with
  | nil => exact absurd h List.not_mem_nil
  | cons c rest ih =>
    rw [Poller.takeAll_cons] at h ⊢
    split
    · rename_i hseen
      rw [if_pos hseen] at h
      exact ih h
    · rename_i hnew
      rw [if_neg hnew] at h
      rcases List.mem_cons.mp h with rfl | h
      · exact (le_max_left (time b) p.lastSeen).trans
          (Poller.lastSeen_le_takeAll (p := p.push window (id b) (time b)))
      · exact ih h

omit [DecidableEq ι] in
/-- An entry handed on before is among the last ids, where those of its time all fit. -/
theorem id_mem_lastOf {out all : List α} {x : α} (hx : x ∈ out) (hout : out ⊆ all) (hnodup : out.Nodup)
    (hsorted : out.Pairwise fun a b => time a ≤ time b) (hlast : ∀ b ∈ out, time b ≤ time x)
    (hroom : all.countP (fun b => time b = time x) ≤ window) : id x ∈ lastOf window (out.map id) := by
  obtain ⟨before, after, rfl⟩ := List.append_of_mem hx
  rw [List.map_append, List.map_cons]
  refine mem_lastOf_append ?_
  rw [List.length_map]
  have hafter : ∀ b ∈ x :: after, time b = time x := by
    intro b hb
    rcases List.mem_cons.mp hb with rfl | hb
    · rfl
    · have hle := List.rel_of_pairwise_cons (List.pairwise_append.mp hsorted).2.1 hb
      exact le_antisymm (hlast b (List.mem_append_right _ (List.mem_cons_of_mem _ hb))) hle
  have hsub : (x :: after).Subperm (all.filter fun b => time b = time x) := by
    refine List.subperm_of_subset (List.nodup_append.mp hnodup).2.1 fun b hb => ?_
    exact List.mem_filter.mpr ⟨hout (List.mem_append_right _ hb), decide_eq_true (hafter b hb)⟩
  have hlen := hsub.length_le
  rw [← List.countP_eq_length_filter, List.length_cons] at hlen
  omega

/-- One answer in the order of its times, whose entries are as many to a time as fit: exactly the new ones are handed
on. -/
theorem Poller.takeAll_eq_filter [DecidableEq α] {out entries all : List α} (hseen : p.seen = lastOf window (out.map id))
    (hids : ∀ a ∈ all, ∀ b ∈ all, id a = id b → a = b) (hout : out ⊆ all) (hentries : entries ⊆ all)
    (hnodup : out.Nodup) (hnodup' : entries.Nodup) (hsorted : out.Pairwise fun a b => time a ≤ time b)
    (hsorted' : entries.Pairwise fun a b => time a ≤ time b) (hle : ∀ b ∈ out, ∀ a ∈ entries, time b ≤ time a)
    (hroom : ∀ x ∈ entries, x ∈ out → all.countP (fun b => time b = time x) ≤ window) :
    (p.takeAll window id time entries).2 = entries.filter (· ∉ out) ∧
      (p.takeAll window id time entries).1.seen = lastOf window ((out ++ entries.filter (· ∉ out)).map id) := by
  induction entries generalizing p out with
  | nil => exact ⟨rfl, by rw [List.filter_nil, List.append_nil]; exact hseen⟩
  | cons a rest ih =>
    obtain ⟨ha, hrest⟩ := List.cons_subset.mp hentries
    obtain ⟨hfresh, hnodupRest⟩ := List.nodup_cons.mp hnodup'
    obtain ⟨hfirst, hsortedRest⟩ := List.pairwise_cons.mp hsorted'
    have hleRest : ∀ b ∈ out, ∀ c ∈ rest, time b ≤ time c := fun b hb c hc => hle b hb c (List.mem_cons_of_mem _ hc)
    rw [Poller.takeAll_cons]
    by_cases hmem : a ∈ out
    · have hid : id a ∈ p.seen := by
        rw [hseen]
        exact id_mem_lastOf hmem hout hnodup hsorted (fun b hb => hle b hb a List.mem_cons_self)
          (hroom a List.mem_cons_self hmem)
      rw [if_pos hid, List.filter_cons_of_neg (by simpa using hmem)]
      exact ih hseen hout hrest hnodup hnodupRest hsorted hsortedRest hleRest
        fun x hx => hroom x (List.mem_cons_of_mem _ hx)
    · have hid : id a ∉ p.seen := by
        intro hid
        rw [hseen] at hid
        obtain ⟨b, hb, heq⟩ := List.mem_map.mp (lastOf_subset _ _ hid)
        exact hmem (hids b (hout hb) a ha heq ▸ hb)
      rw [if_neg hid, List.filter_cons_of_pos (by simpa using hmem)]
      have hpush : (p.push window (id a) (time a)).seen = lastOf window ((out ++ [a]).map id) := by
        rw [List.map_append, List.map_singleton, lastOf_append_singleton, ← hseen]
        rfl
      have hsub : out ++ [a] ⊆ all := List.append_subset.mpr ⟨hout, List.cons_subset.mpr ⟨ha, List.nil_subset _⟩⟩
      have hnodupSnoc : (out ++ [a]).Nodup :=
        List.nodup_append.mpr ⟨hnodup, List.nodup_singleton a, fun x hx y hy => by
          obtain rfl := List.mem_singleton.mp hy
          rintro rfl
          exact hmem hx⟩
      have hsortedSnoc : (out ++ [a]).Pairwise fun a b => time a ≤ time b := by
        refine List.pairwise_append.mpr ⟨hsorted, List.pairwise_singleton _ _, fun b hb c hc => ?_⟩
        obtain rfl := List.mem_singleton.mp hc
        exact hle b hb c List.mem_cons_self
      have hleSnoc : ∀ b ∈ out ++ [a], ∀ c ∈ rest, time b ≤ time c := by
        intro b hb c hc
        rcases List.mem_append.mp hb with hb | hb
        · exact hleRest b hb c hc
        · obtain rfl := List.mem_singleton.mp hb
          exact hfirst c hc
      have hroomSnoc : ∀ x ∈ rest, x ∈ out ++ [a] → all.countP (fun b => time b = time x) ≤ window := by
        intro x hx hxout
        rcases List.mem_append.mp hxout with hxout | hxout
        · exact hroom x (List.mem_cons_of_mem _ hx) hxout
        · obtain rfl := List.mem_singleton.mp hxout
          exact absurd hx hfresh
      obtain ⟨hnew, hseen'⟩ := ih hpush hsub hrest hnodupSnoc hnodupRest hsortedSnoc hsortedRest hleSnoc hroomSnoc
      have hfilter : rest.filter (· ∉ out ++ [a]) = rest.filter (· ∉ out) := by
        refine List.filter_congr fun x hx => decide_eq_decide.mpr ?_
        have hne : x ≠ a := fun he => hfresh (he ▸ hx)
        rw [List.mem_append, List.mem_singleton, or_iff_left hne]
      rw [hfilter] at hnew hseen'
      refine ⟨congrArg (a :: ·) hnew, ?_⟩
      rw [← List.append_cons] at hseen'
      exact hseen'

/-- What was handed on is what a state shows from the start on, each entry once. -/
structure HandedOn (window : Nat) (id : α → ι) (start : τ) (feed : Feed α time) (acc : Poller ι τ × List α) : Prop where
  mem : ∀ a, a ∈ acc.2 ↔ feed.shows a ∧ start ≤ time a
  nodup : acc.2.Nodup
  sorted : acc.2.Pairwise fun a b => time a ≤ time b
  seen : acc.1.seen = lastOf window (acc.2.map id)
  lastSeen : acc.1.lastSeen = start ∨ ∃ a ∈ acc.2, time a = acc.1.lastSeen
  start_le : start ≤ acc.1.lastSeen
  le_lastSeen : ∀ a ∈ acc.2, time a ≤ acc.1.lastSeen

variable {feed : Feed α time}

omit [DecidableEq ι] in
theorem HandedOn.congr {start : τ} {other : Feed α time} {acc : Poller ι τ × List α}
    (h : HandedOn window id start feed acc) (hshows : ∀ a, feed.shows a ↔ other.shows a) :
    HandedOn window id start other acc where
  mem a := by rw [h.mem a, hshows a]
  nodup := h.nodup
  sorted := h.sorted
  seen := h.seen
  lastSeen := h.lastSeen
  start_le := h.start_le
  le_lastSeen := h.le_lastSeen

omit [DecidableEq ι] in
theorem handedOn_nil {start : τ} (h : ∀ a, ¬ feed.shows a) : HandedOn window id start feed (⟨start, []⟩, []) where
  mem a := ⟨fun ha => absurd ha List.not_mem_nil, fun ha => absurd ha.1 (h a)⟩
  nodup := List.nodup_nil
  sorted := List.Pairwise.nil
  seen := List.drop_nil.symm
  lastSeen := .inl rfl
  start_le := le_rfl
  le_lastSeen _ ha := absurd ha List.not_mem_nil

/-- Answers in the order of their times, no entry twice. -/
structure Feed.InOrder (feed : Feed α time) : Prop where
  sorted : ∀ since, (feed.fetch since).Pairwise fun a b => time a ≤ time b
  nodup : ∀ since, (feed.fetch since).Nodup

/-- What is new in a state is from before the start, or not older than what was shown. -/
def Feed.Follows (start : τ) (feed later : Feed α time) : Prop :=
  ∀ a, later.shows a → ¬ feed.shows a → start ≤ time a → ∀ b, feed.shows b → time b ≤ time a

/-- The entries of the latest time shown from the start on fit into the window. -/
def Feed.HasRoom (window : Nat) (start : τ) (feed later : Feed α time) : Prop :=
  ∀ x, feed.shows x → start ≤ time x → (∀ b, feed.shows b → time b ≤ time x) →
    (later.fetch start).countP (fun b => time b = time x) ≤ window

section Poll
variable {start : τ} {later : Feed α time} {acc : Poller ι τ × List α}

omit [DecidableEq ι] in
theorem HandedOn.newest (h : HandedOn window id start feed acc) {b : α} (hb : feed.shows b) :
    time b ≤ acc.1.lastSeen := by
  rcases le_total start (time b) with hstart | hstart
  · exact h.le_lastSeen b ((h.mem b).mpr ⟨hb, hstart⟩)
  · exact hstart.trans h.start_le

/-- Of the answer exactly the entries are taken that were not handed on. -/
theorem HandedOn.takeAll_eq [DecidableEq α] (h : HandedOn window id start feed acc)
    (hgrows : ∀ a, feed.shows a → later.shows a)
    (hids : ∀ a b, later.shows a → later.shows b → id a = id b → a = b) (horder : later.InOrder)
    (hroom : feed.HasRoom window start later) :
    (acc.1.takeAll window id time (later.fetch acc.1.lastSeen)).2 =
        (later.fetch acc.1.lastSeen).filter (· ∉ acc.2) ∧
      (acc.1.takeAll window id time (later.fetch acc.1.lastSeen)).1.seen =
        lastOf window ((acc.2 ++ (later.fetch acc.1.lastSeen).filter (· ∉ acc.2)).map id) := by
  have hout : acc.2 ⊆ later.fetch start := by
    intro a ha
    obtain ⟨hshows, hstart⟩ := (h.mem a).mp ha
    exact (later.mem_fetch start a).mpr ⟨hgrows a hshows, hstart⟩
  have hentries : later.fetch acc.1.lastSeen ⊆ later.fetch start := by
    intro a ha
    obtain ⟨hshows, hle⟩ := (later.mem_fetch _ a).mp ha
    exact (later.mem_fetch start a).mpr ⟨hshows, h.start_le.trans hle⟩
  have hle : ∀ b ∈ acc.2, ∀ a ∈ later.fetch acc.1.lastSeen, time b ≤ time a :=
    fun b hb a ha => (h.le_lastSeen b hb).trans ((later.mem_fetch _ a).mp ha).2
  have hfits : ∀ x ∈ later.fetch acc.1.lastSeen, x ∈ acc.2 →
      (later.fetch start).countP (fun b => time b = time x) ≤ window := by
    intro x hx hxout
    obtain ⟨hshows, hstart⟩ := (h.mem x).mp hxout
    exact hroom x hshows hstart fun b hb => (h.newest hb).trans ((later.mem_fetch _ x).mp hx).2
  have hidsAll : ∀ a ∈ later.fetch start, ∀ b ∈ later.fetch start, id a = id b → a = b :=
    fun a ha b hb => hids a b ((later.mem_fetch _ a).mp ha).1 ((later.mem_fetch _ b).mp hb).1
  exact Poller.takeAll_eq_filter h.seen hidsAll hout hentries h.nodup (horder.nodup _) h.sorted (horder.sorted _) hle hfits

omit [DecidableEq ι] in
theorem HandedOn.mem_answer [DecidableEq α] (h : HandedOn window id start feed acc)
    (hgrows : ∀ a, feed.shows a → later.shows a) (hfollows : feed.Follows start later) (a : α) :
    a ∈ acc.2 ++ (later.fetch acc.1.lastSeen).filter (· ∉ acc.2) ↔ later.shows a ∧ start ≤ time a := by
  constructor
  · intro ha
    rcases List.mem_append.mp ha with ha | ha
    · obtain ⟨hshows, hstart⟩ := (h.mem a).mp ha
      exact ⟨hgrows a hshows, hstart⟩
    · obtain ⟨hshows, hle⟩ := (later.mem_fetch _ a).mp (List.mem_filter.mp ha).1
      exact ⟨hshows, h.start_le.trans hle⟩
  · rintro ⟨hshows, hstart⟩
    by_cases hold : feed.shows a
    · exact List.mem_append_left _ ((h.mem a).mpr ⟨hold, hstart⟩)
    · have hlast : acc.1.lastSeen ≤ time a := by
        rcases h.lastSeen with hstarted | ⟨b, hb, heq⟩
        · exact hstarted.le.trans hstart
        · exact heq ▸ hfollows a hshows hold hstart b ((h.mem b).mp hb).1
      have hfresh : a ∉ acc.2 := fun ha => hold ((h.mem a).mp ha).1
      exact List.mem_append_right _ (List.mem_filter.mpr
        ⟨(later.mem_fetch _ a).mpr ⟨hshows, hlast⟩, decide_eq_true hfresh⟩)

/-- **One poll** hands on what is new, once. -/
theorem handedOn_poll [DecidableEq α] (h : HandedOn window id start feed acc)
    (hgrows : ∀ a, feed.shows a → later.shows a)
    (hids : ∀ a b, later.shows a → later.shows b → id a = id b → a = b) (horder : later.InOrder)
    (hfollows : feed.Follows start later) (hroom : feed.HasRoom window start later) :
    HandedOn window id start later (poll window id acc later) := by
  obtain ⟨hnew, hseen⟩ := h.takeAll_eq hgrows hids horder hroom
  have hanswer := h.mem_answer hgrows hfollows
  obtain ⟨p, out⟩ := acc
  have hresult : poll window id (p, out) later = ((p.takeAll window id time (later.fetch p.lastSeen)).1,
      out ++ (later.fetch p.lastSeen).filter (· ∉ out)) := Prod.ext rfl (congrArg (out ++ ·) hnew)
  have hlastSeen : p.lastSeen ≤ (p.takeAll window id time (later.fetch p.lastSeen)).1.lastSeen :=
    Poller.lastSeen_le_takeAll
  have hfresh : ∀ a, a ∈ (later.fetch p.lastSeen).filter (· ∉ out) → p.lastSeen ≤ time a ∧ a ∉ out := by
    intro a ha
    obtain ⟨hfetch, hfresh⟩ := List.mem_filter.mp ha
    exact ⟨((later.mem_fetch _ a).mp hfetch).2, of_decide_eq_true hfresh⟩
  rw [hresult]
  refine
    { mem := hanswer
      nodup := List.nodup_append.mpr ⟨h.nodup, (horder.nodup _).filter _, fun a ha b hb hab => ?_⟩
      sorted := List.pairwise_append.mpr ⟨h.sorted, (horder.sorted _).filter _, fun b hb a ha => ?_⟩
      seen := hseen
      lastSeen := ?_
      start_le := h.start_le.trans hlastSeen
      le_lastSeen := fun a ha => ?_ }
  · exact (hfresh b hb).2 (hab ▸ ha)
  · exact (h.le_lastSeen b hb).trans (hfresh a ha).1
  · have hlast : (p.takeAll window id time (later.fetch p.lastSeen)).1.lastSeen = p.lastSeen ∨ _ :=
      Poller.takeAll_lastSeen
    rcases hlast with hkept | ⟨b, hb, heq⟩
    · rcases h.lastSeen with hstarted | ⟨b, hb, heq⟩
      · exact .inl (hkept.trans hstarted)
      · exact .inr ⟨b, List.mem_append_left _ hb, heq.trans hkept.symm⟩
    · rw [hnew] at hb
      exact .inr ⟨b, List.mem_append_right _ hb, heq⟩
  · rcases List.mem_append.mp ha with ha | ha
    · exact (h.le_lastSeen a ha).trans hlastSeen
    · rw [← hnew] at ha
      exact Poller.time_le_takeAll ha

end Poll

end Once

/-! ## Without ids -/

structure Cursor (α : Type u) (τ : Type w) where
  lastSeen : τ
  out : List α

namespace Cursor

def take (time : α → τ) (c : Cursor α τ) (a : α) : Cursor α τ := ⟨max (time a) c.lastSeen, c.out ++ [a]⟩

def takeAll (time : α → τ) (c : Cursor α τ) (entries : List α) : Cursor α τ := entries.foldl (take time) c

variable {c : Cursor α τ} {entries : List α}

@[simp] theorem takeAll_nil : c.takeAll time [] = c := rfl

@[simp] theorem takeAll_cons {a : α} : c.takeAll time (a :: entries) = (c.take time a).takeAll time entries := rfl

@[simp] theorem takeAll_out : (c.takeAll time entries).out = c.out ++ entries := by
  induction entries generalizing c with
  | nil => rw [takeAll_nil, List.append_nil]
  | cons a rest ih =>
    rw [takeAll_cons, ih]
    exact List.append_assoc _ [a] rest

theorem takeAll_lastSeen : (c.takeAll time entries).lastSeen = c.lastSeen ∨
    ∃ a ∈ entries, time a = (c.takeAll time entries).lastSeen := by
  induction entries generalizing c with
  | nil => exact .inl rfl
  | cons a rest ih =>
    rw [takeAll_cons]
    rcases ih (c := c.take time a) with hkept | ⟨b, hb, heq⟩
    · rcases max_choice (time a) c.lastSeen with hmax | hmax
      · exact .inr ⟨a, List.mem_cons_self .., (hkept.trans hmax).symm⟩
      · exact .inl (hkept.trans hmax)
    · exact .inr ⟨b, List.mem_cons_of_mem a hb, heq⟩

end Cursor

end Lib
