import WikiEntry.Store.Memory

/-!
# Many clients of one store

Every request is answered under one lock, so that whatever the clients do at the same time, the store sees their
requests one after the other.  An interleaving is therefore a list of requests, each with the client that made
it, and what is proved of all such lists holds for all interleavings.

A revision stands for one text: as long as the revision of a page has not grown, the page has not changed.  This
is what makes it safe to accept a text that was made from the revision the page still has.
-/

namespace WikiEntry
namespace MemoryStore

/-!
# Requests
-/

inductive Request where
  | insert (title t : Text)
  | fetch (title : Text)
  | submit (title t summary : Text) (base : Nat)
  deriving DecidableEq, Repr

inductive Answer where
  | inserted
  | fetched (page : Except EntryError StoredPage)
  | submitted (outcome : Submission)

/-- The store after a request, and what the client gets back. -/
def respond (s : MemoryStore) : Request -> MemoryStore × Answer
  | .insert title t => (s.insert title t, .inserted)
  | .fetch title => (s, .fetched (s.fetch title))
  | .submit title t summary base =>
      ((s.submit title t summary base).1, .submitted (s.submit title t summary base).2)

/-- A request of some client, as it reached the store. -/
structure Event (Client : Type) where
  client : Client
  request : Request
  before : MemoryStore

namespace Event

variable {Client : Type}

def answer (e : Event Client) : Answer :=
  (e.before.respond e.request).2

def after (e : Event Client) : MemoryStore :=
  (e.before.respond e.request).1

/-- Insertions are always accepted. -/
def writes (e : Event Client) (title : Text) : Bool :=
  match e.request, e.answer with
  | .insert other _, _ => other == title
  | .submit other _ _ _, .submitted .accepted => other == title
  | _, _ => false

/-- The title and the summary of an accepted submission. -/
def edit? (e : Event Client) : Option (Text × Text) :=
  match e.request, e.answer with
  | .submit title _ summary _, .submitted .accepted => some (title, summary)
  | _, _ => none

end Event

variable {Client : Type}

/-- What happens when the requests reach the store in the given order. -/
def history (s : MemoryStore) : List (Client × Request) -> List (Event Client)
  | [] => []
  | (client, request) :: rest => ⟨client, request, s⟩ :: history (s.respond request).1 rest

/-- The store after all the requests. -/
def afterAll (s : MemoryStore) (requests : List (Client × Request)) : MemoryStore :=
  requests.foldl (fun s request => (s.respond request.2).1) s

/-!
# One request
-/

theorem revision_insert (s : MemoryStore) (title t other : Text) :
    (s.insert title t).revision other = s.revision other + if title = other then 1 else 0 := by
  rw [revision, find?_insert]
  by_cases h : other = title
  · simp [h]
  · simp [h, Ne.symm h, revision]

theorem respond_submit_of_revision {s : MemoryStore} {title : Text} {base : Nat}
    (h : s.revision title = base) (t summary : Text) :
    s.respond (.submit title t summary base) =
      ({ s.insert title t with summaries := s.summaries ++ [(title, summary)] }, .submitted .accepted) := by
  rw [respond, submit, if_pos h]

theorem respond_submit_of_revision_ne {s : MemoryStore} {title : Text} {base : Nat}
    (h : s.revision title ≠ base) (t summary : Text) :
    s.respond (.submit title t summary base) = (s, .submitted .conflict) := by
  rw [respond, submit, if_neg h]

/-- A request that writes a page raises its revision by one, and no request does anything else to a page. -/
theorem Event.step (e : Event Client) (title : Text) :
    (e.writes title = true ∧ e.after.revision title = e.before.revision title + 1) ∨
      (e.writes title = false ∧ e.after.find? title = e.before.find? title) := by
  rcases e with ⟨client, request, s⟩
  cases request with
  | insert other t =>
      by_cases h : other = title
      · refine .inl ⟨by simp [Event.writes, h], ?_⟩
        show (s.insert other t).revision title = s.revision title + 1
        rw [revision_insert, if_pos h]
      · refine .inr ⟨by simp [Event.writes, h], ?_⟩
        show (s.insert other t).find? title = s.find? title
        rw [find?_insert, if_neg (Ne.symm h)]
  | fetch other => exact .inr ⟨rfl, rfl⟩
  | submit other t summary base =>
      by_cases hbase : s.revision other = base
      · have hrespond := respond_submit_of_revision hbase t summary
        by_cases h : other = title
        · refine .inl ⟨by simp only [Event.writes, Event.answer, hrespond]; exact beq_iff_eq.mpr h, ?_⟩
          simp only [Event.after, hrespond]
          show (s.insert other t).revision title = s.revision title + 1
          rw [revision_insert, if_pos h]
        · refine .inr ⟨by simp only [Event.writes, Event.answer, hrespond]; exact beq_eq_false_iff_ne.mpr h, ?_⟩
          simp only [Event.after, hrespond]
          show (s.insert other t).find? title = s.find? title
          rw [find?_insert, if_neg (Ne.symm h)]
      · have hrespond := respond_submit_of_revision_ne hbase t summary
        exact .inr ⟨by simp only [Event.writes, Event.answer, hrespond],
          by simp only [Event.after, hrespond]⟩

theorem Event.revision_after (e : Event Client) (title : Text) :
    e.after.revision title = e.before.revision title + if e.writes title then 1 else 0 := by
  rcases e.step title with ⟨hwrites, hrevision⟩ | ⟨hwrites, hfind⟩
  · simp [hwrites, hrevision]
  · simp [hwrites, revision, hfind]

theorem Event.summaries_after (e : Event Client) :
    e.after.summaries = e.before.summaries ++ e.edit?.toList := by
  rcases e with ⟨client, request, s⟩
  cases request with
  | insert title t => exact (List.append_nil _).symm
  | fetch title => exact (List.append_nil _).symm
  | submit title t summary base =>
      by_cases hbase : s.revision title = base
      · simp [Event.after, Event.edit?, Event.answer, respond_submit_of_revision hbase]
      · simp [Event.after, Event.edit?, Event.answer, respond_submit_of_revision_ne hbase]

theorem Event.after_of_conflict {e : Event Client} (h : e.answer = .submitted .conflict) :
    e.after = e.before := by
  rcases e with ⟨client, request, s⟩
  cases request with
  | insert title t => cases h
  | fetch title => rfl
  | submit title t summary base =>
      by_cases hbase : s.revision title = base
      · simp [Event.answer, respond_submit_of_revision hbase] at h
      · simp [Event.after, respond_submit_of_revision_ne hbase]

/-- A submission is accepted only for the revision that the page has, and replaces its text. -/
theorem Event.accepted_inv {e : Event Client} {title t summary : Text} {base : Nat}
    (hrequest : e.request = .submit title t summary base) (h : e.answer = .submitted .accepted) :
    e.before.revision title = base ∧ e.after.find? title = some ⟨title, t, base + 1⟩ := by
  rcases e with ⟨client, request, s⟩
  cases hrequest
  by_cases hbase : s.revision title = base
  · refine ⟨hbase, ?_⟩
    simp only [Event.after, respond_submit_of_revision hbase]
    show (s.insert title t).find? title = some ⟨title, t, base + 1⟩
    rw [find?_insert, if_pos rfl, hbase]
  · simp [Event.answer, respond_submit_of_revision_ne hbase] at h

theorem Event.fetched_inv {e : Event Client} {title : Text} {page : StoredPage}
    (hrequest : e.request = .fetch title) (h : e.answer = .fetched (.ok page)) :
    e.before.find? title = some page ∧ e.after = e.before := by
  rcases e with ⟨client, request, s⟩
  cases hrequest
  refine ⟨?_, rfl⟩
  have hfetch : s.fetch title = .ok page := by simpa [Event.answer, respond] using h
  unfold fetch at hfetch
  cases hfind : s.find? title with
  | some found => rw [hfind] at hfetch; exact congrArg some (Except.ok.inj hfetch)
  | none => rw [hfind] at hfetch; cases hfetch

/-!
# A whole run
-/

theorem history_cons (s : MemoryStore) (client : Client) (request : Request)
    (rest : List (Client × Request)) :
    s.history ((client, request) :: rest) =
      ⟨client, request, s⟩ :: (Event.after ⟨client, request, s⟩).history rest := rfl

theorem afterAll_cons (s : MemoryStore) (client : Client) (request : Request)
    (rest : List (Client × Request)) :
    s.afterAll ((client, request) :: rest) = (Event.after ⟨client, request, s⟩).afterAll rest := rfl

theorem revision_afterAll (requests : List (Client × Request)) (title : Text) (s : MemoryStore) :
    (s.afterAll requests).revision title =
      s.revision title + (s.history requests).countP (·.writes title) := by
  induction requests generalizing s with
  | nil => rfl
  | cons step rest ih =>
      rcases step with ⟨client, request⟩
      rw [afterAll_cons, ih, history_cons, List.countP_cons, Event.revision_after,
        Nat.add_comm (List.countP _ _), ← Nat.add_assoc]

theorem summaries_afterAll (requests : List (Client × Request)) (s : MemoryStore) :
    (s.afterAll requests).summaries = s.summaries ++ (s.history requests).filterMap Event.edit? := by
  induction requests generalizing s with
  | nil => exact (List.append_nil _).symm
  | cons step rest ih =>
      rcases step with ⟨client, request⟩
      rw [afterAll_cons, ih, history_cons, Event.summaries_after, List.append_assoc, List.filterMap_cons]
      cases Event.edit? (⟨client, request, s⟩ : Event Client) <;> rfl

/-- Revisions never fall, and a page whose revision stays the same stays the same page. -/
theorem find?_of_mem_history (requests : List (Client × Request)) (title : Text) (s : MemoryStore)
    {e : Event Client} (he : e ∈ s.history requests) :
    s.revision title ≤ e.before.revision title ∧
      (e.before.revision title = s.revision title -> e.before.find? title = s.find? title) := by
  induction requests generalizing s with
  | nil => cases he
  | cons step rest ih =>
      rcases step with ⟨client, request⟩
      rw [history_cons] at he
      rcases List.mem_cons.mp he with rfl | he
      · exact ⟨Nat.le_refl _, fun _ => rfl⟩
      · rcases ih _ he with ⟨hle, hsame⟩
        rcases Event.step (⟨client, request, s⟩ : Event Client) title with
          ⟨-, hrevision⟩ | ⟨-, hfind⟩
        · rw [hrevision] at hle
          exact ⟨by change s.revision title + 1 ≤ _ at hle; omega,
            fun heq => by change s.revision title + 1 ≤ _ at hle; omega⟩
        · have hrevision : (Event.after ⟨client, request, s⟩).revision title = s.revision title := by
            rw [revision, hfind]; rfl
          rw [hrevision] at hle hsame
          exact ⟨hle, fun heq => (hsame heq).trans hfind⟩

/-- A submission that was made from a fetched page is accepted only if it replaces the very page that was
fetched. -/
def Keeps (earlier later : Event Client) : Prop :=
  forall title page t summary,
    earlier.request = .fetch title -> earlier.answer = .fetched (.ok page) ->
      later.request = .submit title t summary page.revision -> later.answer = .submitted .accepted ->
        later.before.find? title = some page ∧
          later.after.find? title = some ⟨title, t, page.revision + 1⟩

theorem pairwise_keeps_history (requests : List (Client × Request)) (s : MemoryStore) :
    (s.history requests).Pairwise Keeps := by
  induction requests generalizing s with
  | nil => exact List.Pairwise.nil
  | cons step rest ih =>
      rcases step with ⟨client, request⟩
      rw [history_cons]
      refine List.Pairwise.cons ?_ (ih _)
      intro later hlater title page t summary hfetch hpage hsubmit haccepted
      rcases Event.fetched_inv hfetch hpage with ⟨hfind, hafter⟩
      rcases Event.accepted_inv hsubmit haccepted with ⟨hbase, hreplaced⟩
      have hsame := (find?_of_mem_history rest title _ hlater).2
      rw [hafter] at hsame
      have hrevision : s.revision title = page.revision := by
        change s.find? title = some page at hfind
        rw [revision, hfind]; rfl
      exact ⟨(hsame (hbase.trans hrevision.symm)).trans hfind, hreplaced⟩

/-- Whatever clients do at the same time, no update is lost: the revision of a page counts the accepted writes, a
text made from a fetched page replaces that very page or is refused, a refused text changes nothing, and the
summaries are those of the accepted submissions in their order. -/
theorem no_update_is_lost (Client : Type) (requests : List (Client × Request)) :
    (forall e, e ∈ history {} requests -> forall title,
      e.after.revision title = e.before.revision title + if e.writes title then 1 else 0) ∧
    (forall title, (afterAll {} requests).revision title =
      (history {} requests).countP (·.writes title)) ∧
    (history {} requests).Pairwise Keeps ∧
    (forall e, e ∈ history {} requests -> e.answer = .submitted .conflict -> e.after = e.before) ∧
    (afterAll {} requests).summaries = (history {} requests).filterMap Event.edit? := by
  refine ⟨fun e _ title => e.revision_after title, fun title => ?_, pairwise_keeps_history requests {},
    fun e _ h => e.after_of_conflict h, ?_⟩
  · rw [revision_afterAll]
    exact Nat.zero_add _
  · rw [summaries_afterAll]
    exact List.nil_append _

/-- Two clients that fetch one page, and both submit a text that they made from it. -/
def race : List (Nat × Request) :=
  [(0, .insert "casa".toList "texto".toList), (0, .fetch "casa".toList), (1, .fetch "casa".toList),
    (1, .submit "casa".toList "nuevo".toList "primero".toList 1),
    (0, .submit "casa".toList "otro".toList "segundo".toList 1)]

/-- The second text of a race is refused, and the first one stays. -/
theorem second_of_race_is_refused :
    (history {} race).Pairwise Keeps ∧
      (afterAll {} race).revision "casa".toList = 2 ∧
      (afterAll {} race).summaries = [("casa".toList, "primero".toList)] ∧
      (afterAll {} race).find? "casa".toList = some ⟨"casa".toList, "nuevo".toList, 2⟩ := by
  rcases no_update_is_lost Nat race with ⟨-, hrevision, hkeeps, -, hsummaries⟩
  refine ⟨hkeeps, ?_, ?_, by decide +kernel⟩
  · rw [hrevision]
    decide +kernel
  · rw [hsummaries]
    decide +kernel

end MemoryStore
end WikiEntry
