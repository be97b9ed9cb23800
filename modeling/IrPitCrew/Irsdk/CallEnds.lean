import IrPitCrew.Irsdk.Snapshots

/-!
# How a call of irsdk_getNewData ends

A call makes a bounded number of reads, whatever the simulator does meanwhile. It
misses news only when the simulator comes back to the buffer that it copies.
-/

open IrPitCrew.Run

namespace IrPitCrew.NewData

variable {ι V : Type*}

/-! ## The reads of a call -/

/-- The reads of the tries that are left, at the start of a try. -/
def triesLeft (cells : List ι) (count : Nat) : Nat := (2 - count) * (cells.length + 2) + 1

def readsLeft (N : Nat) (cells : List ι) : Place ι → Nat
  | .returned _ => 0
  | .scan _ i => 2 * (N - i) + triesLeft cells 0 + 2
  | .scanned _ i _ => 2 * (N - (i + 1)) + triesLeft cells 0 + 3
  | .newer _ => triesLeft cells 0 + 1
  | .mark _ => 1
  | .tick _ count => triesLeft cells count
  | .copy _ count _ left => left.length + 1 + triesLeft cells (count + 1)
  | .older _ => 2
  | .reset _ => 1

theorem triesLeft_of_lt (cells : List ι) {count : Nat} (h : count < 2) :
    triesLeft cells count = triesLeft cells (count + 1) + (cells.length + 2) := by
  have hcount : 2 - count = (2 - (count + 1)) + 1 := by omega
  rw [triesLeft, triesLeft, hcount, Nat.add_mul]
  omega

theorem result_of_readsLeft {N : Nat} {cells : List ι} {place : Place ι}
    (h : readsLeft N cells place = 0) : place.result ≠ none := by
  cases place with
  | returned result => simp [Place.result]
  | scan | scanned | newer | mark | copy | older | reset =>
    simp only [readsLeft] at h
    omega
  | tick latest count =>
    simp only [readsLeft, triesLeft] at h
    omega

variable [DecidableEq ι]

theorem readsLeft_read (N : Nat) (cells : List ι) (mem : Ring ι V) (c : Client ι V) :
    readsLeft N cells (c.read N cells mem).place ≤ readsLeft N cells c.place - 1 := by
  have htries : 2 ≤ triesLeft cells 0 := by
    rw [triesLeft]
    omega
  unfold Client.read
  cases hplace : c.place with
  | returned result => simp [hplace, readsLeft]
  | scan latest i =>
    simp only
    split_ifs
    · simp only [readsLeft]
      omega
    · simp only [readsLeft]
      omega
  | scanned latest i latestTick =>
    simp only [readsLeft]
    omega
  | newer latest =>
    simp only
    split_ifs
    · simp [readsLeft]
    · simp only [readsLeft]
      omega
    · simp only [readsLeft]
      omega
  | mark latest | reset latest => simp [readsLeft]
  | tick latest count =>
    simp only
    split_ifs with hcount
    · have := triesLeft_of_lt cells hcount
      simp only [readsLeft]
      omega
    · simp [readsLeft]
  | copy latest count curTickCount left =>
    cases left with
    | nil =>
      simp only
      split_ifs
      · simp [readsLeft]
      · simp only [readsLeft]
        omega
    | cons i left =>
      simp only [readsLeft, List.length_cons]
      omega
  | older latest =>
    simp only
    split_ifs
    · simp [readsLeft]
    · simp [readsLeft]

theorem readsLeft_run (N : Nat) (cells : List ι) (s : System ι V) {inside : List (Action ι V)}
    (hinside : ∀ a ∈ inside, ¬ IsCall a) :
    readsLeft N cells (run (step N cells) s inside).client.place ≤
      readsLeft N cells s.client.place - reads inside := by
  induction inside generalizing s with
  | nil => exact Nat.le_refl _
  | cons a inside ih =>
    have hrest := ih (step N cells s a) fun b hb => hinside b (by simp [hb])
    rw [run_cons]
    cases a with
    | call hasData => exact absurd trivial (hinside (.call hasData) (by simp))
    | write i v | commit | setStatus connected => exact hrest
    | read =>
      have hread := readsLeft_read N cells s.mem s.client
      have hreads : reads (.read :: inside) = reads inside + 1 := by simp [reads]
      have hclient : (step N cells s .read).client = s.client.read N cells s.mem := rfl
      rw [hclient] at hrest
      omega

/-! ## A call with news -/

/-- What a call has found out, when it began with these images and this last tick. A second try means
that the simulator has come back to the buffer. -/
def Trying (N start : Nat) (last : Int) (mem : Ring ι V) (c : Client ι V) : Prop :=
  match c.place with
  | .returned true => True
  | .returned false => (start : Int) ≤ last + 1 ∨ start + N ≤ mem.count
  | .older _ | .reset _ => c.lastTickCount = last ∧ (start : Int) ≤ last + 1
  | .tick _ count | .copy _ count _ _ => c.lastTickCount = last ∧ (0 < count → start + N ≤ mem.count)
  | .scan _ _ | .scanned _ _ _ | .newer _ | .mark _ => c.lastTickCount = last

omit [DecidableEq ι] in
theorem Trying.later {N start : Nat} {last : Int} {mem mem' : Ring ι V} {c : Client ι V}
    (h : Trying N start last mem c) (hcount : mem.count ≤ mem'.count) :
    Trying N start last mem' c := by
  unfold Trying at h ⊢
  cases hplace : c.place with
  | returned result =>
    simp only [hplace] at h ⊢
    cases result with
    | true => trivial
    | false => exact h.imp_right fun hover => Nat.le_trans hover hcount
  | tick latest count | copy latest count curTickCount left =>
    simp only [hplace] at h ⊢
    exact ⟨h.1, fun htry => Nat.le_trans (h.2 htry) hcount⟩
  | scan | scanned | newer | mark | older | reset => simpa only [hplace] using h

theorem Trying.read {N start : Nat} {cells : List ι} {last : Int} {s : System ι V}
    (hinCall : InCall N cells start s) (h : Trying N start last s.mem s.client) :
    Trying N start last s.mem (s.client.read N cells s.mem) := by
  have hplaceOk := hinCall.place
  unfold PlaceOk at hplaceOk
  unfold Trying at h
  unfold Client.read
  cases hplace : s.client.place with
  | returned result => simpa only [Trying, hplace] using h
  | scan latest i =>
    simp only [hplace] at h ⊢
    split_ifs <;> exact h
  | scanned latest i latestTick =>
    simp only [hplace] at h
    exact h
  | newer latest =>
    simp only [hplace] at h hplaceOk ⊢
    have hfresh := hplaceOk.tick
    split_ifs with hlt
    · exact ⟨h, fun htry => absurd htry (Nat.lt_irrefl 0)⟩
    · exact h
    · exact ⟨h, by omega⟩
  | mark latest => trivial
  | tick latest count =>
    simp only [hplace] at h ⊢
    split_ifs with hcount
    · exact h
    · exact .inr (h.2 (by omega))
  | copy latest count curTickCount left =>
    simp only [hplace] at h hplaceOk
    cases left with
    | cons i left => exact h
    | nil =>
      simp only
      split_ifs with hsame
      · trivial
      · refine ⟨h.1, fun _ => ?_⟩
        -- The mark has changed, so the simulator has been here again.
        obtain ⟨hlatest, -, htick, k, rfl, hstart, -, hmod, -⟩ := hplaceOk
        have hagain := Ring.count_of_tick_ne hinCall.marked hlatest hmod (by omega)
        omega
  | older latest =>
    simp only [hplace] at h ⊢
    split_ifs
    · exact h
    · exact .inl h.2
  | reset latest =>
    simp only [hplace] at h
    exact .inl h.2

theorem Trying.step {N start : Nat} {cells : List ι} {last : Int} {s : System ι V}
    (hinCall : InCall N cells start s) (h : Trying N start last s.mem s.client) {a : Action ι V}
    (ha : ¬ IsCall a) :
    Trying N start last (step N cells s a).mem (step N cells s a).client := by
  cases a with
  | call hasData => exact absurd trivial ha
  | write i v => exact h.later (Nat.le_refl _)
  | commit => exact h.later (Ring.later_commit hinCall.marked).count_le
  | setStatus connected => exact h
  | read => exact h.read hinCall

theorem Trying.run {N start : Nat} (hN : 0 < N) {cells : List ι} {last : Int} {s : System ι V}
    (hinCall : InCall N cells start s) (h : Trying N start last s.mem s.client)
    {inside : List (Action ι V)} (hinside : ∀ a ∈ inside, ¬ IsCall a) :
    Trying N start last (Run.run (NewData.step N cells) s inside).mem
      (Run.run (NewData.step N cells) s inside).client := by
  induction inside generalizing s with
  | nil => exact h
  | cons a inside ih =>
    have ha := hinside a (by simp)
    exact ih (hinCall.step hN ha) (h.step hinCall ha) fun b hb => hinside b (by simp [hb])

omit [DecidableEq ι] in
/-- No second try, when fewer than `N` images are finished meanwhile. -/
theorem Trying.count_eq_zero {N start : Nat} {last : Int} {mem : Ring ι V} {c : Client ι V}
    (h : Trying N start last mem c) (hcount : mem.count < start + N) {latest count : Nat}
    (hplace : c.place = .tick latest count) : count = 0 := by
  simp only [Trying, hplace] at h
  have := h.2
  omega

/-- **News.** A call that begins with news returns true, when fewer than `N` images are finished
meanwhile and the client gets to make its reads. It does not copy a second time. -/
theorem getNewData_returns {N : Nat} (hN : 1 < N) (cells : List ι) (cell : Nat → ι → V) (data : ι → V)
    (before inside : List (Action ι V)) (hasData : Bool) {result : Bool}
    (hready : (run (step N cells) (init cell data) before).client.place = .returned result)
    (hconnected : (run (step N cells) (init cell data) before).connected = true)
    (hnews : (run (step N cells) (init cell data) before).client.lastTickCount + 1 <
      (run (step N cells) (init cell data) before).mem.count)
    (hinside : ∀ a ∈ inside, ¬ IsCall a) (hcommits : commits inside < N)
    (hreads : 2 * N + 2 * cells.length + 5 ≤ reads inside) :
    (run (step N cells) (init cell data) (before ++ .call hasData :: inside)).client.place =
        .returned true ∧
      ∀ fs, fs <+: inside → ∀ latest count,
        (run (step N cells) (init cell data) (before ++ .call hasData :: fs)).client.place =
          .tick latest count → count = 0 := by
  obtain ⟨_, hsound⟩ := sound_run hN cells cell data before
  simp only [run_append, run_cons]
  generalize run (step N cells) (init cell data) before = start at hready hconnected hnews hsound ⊢
  have hcall : (step N cells start (.call hasData)).client =
      { start.client with hasData, place := .scan 0 1 } := by
    unfold step Client.call
    rw [hready, hconnected]
    rfl
  have htrying : Trying N start.mem.count start.client.lastTickCount start.mem
      (step N cells start (.call hasData)).client := by
    rw [hcall]
    exact rfl
  have hsame : (step N cells start (.call hasData)).mem.count = start.mem.count := rfl
  refine ⟨?_, fun fs hfs latest count hplace => ?_⟩
  swap
  · have htried := htrying.run (Nat.lt_of_succ_lt hN) (hsound.call hN hready hasData)
      fun a ha => hinside a (hfs.subset ha)
    have hcount := count_run N cells (step N cells start (.call hasData)) fs
    have hfewer : commits fs ≤ commits inside := hfs.sublist.countP_le
    exact htried.count_eq_zero (by omega) hplace
  have htried := htrying.run (Nat.lt_of_succ_lt hN) (hsound.call hN hready hasData) hinside
  have hleft := readsLeft_run N cells (step N cells start (.call hasData)) hinside
  have hcount := count_run N cells (step N cells start (.call hasData)) inside
  generalize run (step N cells) (step N cells start (.call hasData)) inside = s at htried hleft hcount ⊢
  have hended : readsLeft N cells s.client.place = 0 := by
    have hfirst : readsLeft N cells (.scan 0 1 : Place ι) = 2 * N + 2 * cells.length + 5 := by
      simp only [readsLeft, triesLeft]
      omega
    rw [hcall] at hleft
    change _ ≤ readsLeft N cells (.scan 0 1) - _ at hleft
    omega
  have hresult := result_of_readsLeft hended
  unfold Trying at htried
  cases hplace : s.client.place with
  | returned result =>
    cases result with
    | true => rfl
    | false =>
      simp only [hplace] at htried
      omega
  | scan | scanned | newer | mark | tick | copy | older | reset => simp [hplace, Place.result] at hresult

theorem getNewData_returns_three :
    (run (step 3 [false, true]) (init (fun _ _ => false) fun _ => false)
      (firstImage ++ .call true :: (.commit :: List.replicate 15 .read))).client.place =
      .returned true :=
  (getNewData_returns (by decide) [false, true] _ _ firstImage _ true rfl rfl (by decide) (by decide)
    (by decide) (by decide)).1

end IrPitCrew.NewData
