import IrPitCrew.Irsdk.NewData

/-!
# What a client of the shared memory gets

A call that is not overtaken by the simulator copies one image, which is no older
than the newest one at the start of the call. The ticks that a client gets
increase.
-/

open IrPitCrew.Run

namespace IrPitCrew.NewData

variable {ι V : Type*}

/-! ## What holds inside a call -/

/-- The cell is that of the image `k`, while the simulator has not come back to its buffer. -/
def Copied (N : Nat) (mem : Ring ι V) (k : Nat) (data : ι → V) (i : ι) : Prop :=
  mem.count < k + N → ∀ image ∈ mem.images[k]?, data i = image i

/-- The buffer is as new as the newest one at the start of the call. -/
structure Fresh (N start : Nat) (mem : Ring ι V) (latest : Nat) : Prop where
  lt : latest < N
  tick : (start : Int) ≤ mem.tick latest + 1

/-- `start` is the number of images at the start of the call. -/
def PlaceOk (N : Nat) (cells : List ι) (start : Nat) (mem : Ring ι V) (c : Client ι V) : Prop :=
  match c.place with
  | .returned result => result = true → c.hasData = true →
    ∃ k : Nat, c.lastTickCount = k ∧ start ≤ k + 1 ∧ k < mem.count ∧ ∀ i ∈ cells, Copied N mem k c.data i
  | .scan latest i => latest < N ∧ ((start - 1) % N < i → (start : Int) ≤ mem.tick latest + 1)
  | .scanned latest i latestTick =>
    latest < N ∧ i < N ∧ latestTick ≤ mem.tick latest ∧
      ((start - 1) % N < i → (start : Int) ≤ latestTick + 1)
  | .newer latest | .older latest | .reset latest => Fresh N start mem latest
  | .mark latest => Fresh N start mem latest ∧ c.lastTickCount < mem.tick latest ∧ c.hasData = false
  | .tick latest _ => Fresh N start mem latest ∧ c.lastTickCount < mem.tick latest
  | .copy latest _ curTickCount left =>
    latest < N ∧ c.lastTickCount < curTickCount ∧ curTickCount ≤ mem.tick latest ∧
      ∃ k : Nat, curTickCount = k ∧ start ≤ k + 1 ∧ k < mem.count ∧ k % N = latest ∧ left ⊆ cells ∧
        ∀ i ∈ cells, i ∉ left → Copied N mem k c.data i

structure InCall (N : Nat) (cells : List ι) (start : Nat) (s : System ι V) : Prop where
  marked : s.mem.Marked N
  started : start ≤ s.mem.count
  newest : (start : Int) ≤ s.mem.tick ((start - 1) % N) + 1
  lastTickCount : -1 ≤ s.client.lastTickCount
  place : PlaceOk N cells start s.mem s.client

theorem neg_one_le_intMax : -1 ≤ intMax := by decide

/-! ## Steps of the simulator -/

theorem Copied.later {N : Nat} {mem mem' : Ring ι V} (h : mem.Later mem') {k : Nat} (hk : k < mem.count)
    {data : ι → V} {i : ι} (hcopied : Copied N mem k data i) : Copied N mem' k data i := by
  intro hcount image himage
  rw [h.image hk] at himage
  have := h.count_le
  exact hcopied (by omega) image himage

theorem Fresh.later {N start : Nat} {mem mem' : Ring ι V} (h : mem.Later mem') {latest : Nat}
    (hfresh : Fresh N start mem latest) : Fresh N start mem' latest :=
  ⟨hfresh.lt, Int.le_trans hfresh.tick (Int.add_le_add_right (h.tick latest) 1)⟩

theorem PlaceOk.later {N : Nat} {cells : List ι} {start : Nat} {mem mem' : Ring ι V}
    (h : mem.Later mem') {c : Client ι V} (hplace : PlaceOk N cells start mem c) :
    PlaceOk N cells start mem' c := by
  have hcount := h.count_le
  unfold PlaceOk at hplace ⊢
  split at hplace
  · intro hresult hdata
    obtain ⟨k, hlast, hstart, hk, hcopied⟩ := hplace hresult hdata
    exact ⟨k, hlast, hstart, by omega, fun i hi => (hcopied i hi).later h hk⟩
  · rename_i latest i _
    have := h.tick latest
    exact ⟨hplace.1, fun hi => by have := hplace.2 hi; omega⟩
  · rename_i latest i latestTick _
    obtain ⟨hlatest, hi, htick, hscanned⟩ := hplace
    exact ⟨hlatest, hi, Int.le_trans htick (h.tick latest), hscanned⟩
  · exact hplace.later h
  · exact hplace.later h
  · exact hplace.later h
  · rename_i latest _
    exact ⟨hplace.1.later h, Int.lt_of_lt_of_le hplace.2.1 (h.tick latest), hplace.2.2⟩
  · rename_i latest _ _
    exact ⟨hplace.1.later h, Int.lt_of_lt_of_le hplace.2 (h.tick latest)⟩
  · rename_i latest _ curTickCount left _
    obtain ⟨hlatest, hlast, htick, k, hcur, hstart, hk, hmod, hleft, hcopied⟩ := hplace
    exact ⟨hlatest, hlast, Int.le_trans htick (h.tick latest), k, hcur, hstart, by omega, hmod, hleft,
      fun i hi hnot => (hcopied i hi hnot).later h hk⟩

theorem InCall.later {N : Nat} {cells : List ι} {start : Nat} {s : System ι V} {mem' : Ring ι V}
    (h : InCall N cells start s) (hlater : s.mem.Later mem') (hmarked : mem'.Marked N) :
    InCall N cells start { s with mem := mem' } where
  marked := hmarked
  started := Nat.le_trans h.started hlater.count_le
  newest := Int.le_trans h.newest (Int.add_le_add_right (hlater.tick _) 1)
  lastTickCount := h.lastTickCount
  place := h.place.later hlater

/-! ## Steps of the client -/

theorem inCall_init {N : Nat} (hN : 1 < N) (cells : List ι) (cell : Nat → ι → V) (data : ι → V) :
    InCall N cells 0 (init cell data) := by
  have hmarked : (Ring.init cell).Marked N := Ring.marked_init N cell
  refine ⟨hmarked, Nat.le_refl _, hmarked.newest hN, neg_one_le_intMax, ?_⟩
  intro hresult
  contradiction

variable [DecidableEq ι]

theorem PlaceOk.read_scanned {N start : Nat} {cells : List ι} {mem : Ring ι V}
    (hnewest : (start : Int) ≤ mem.tick ((start - 1) % N) + 1) {c : Client ι V} {latest i : Nat}
    {latestTick : Int} (hplace : c.place = .scanned latest i latestTick)
    (h : latest < N ∧ i < N ∧ latestTick ≤ mem.tick latest ∧
      ((start - 1) % N < i → (start : Int) ≤ latestTick + 1)) :
    PlaceOk N cells start mem (c.read N cells mem) := by
  obtain ⟨hlatest, hi, htick, hscanned⟩ := h
  unfold Client.read
  simp only [hplace, PlaceOk]
  split_ifs with hlt
  · refine ⟨hi, fun hlti => ?_⟩
    rcases Nat.lt_succ_iff_lt_or_eq.mp hlti with hbefore | rfl
    · have := hscanned hbefore
      omega
    · exact hnewest
  · refine ⟨hlatest, fun hlti => ?_⟩
    rcases Nat.lt_succ_iff_lt_or_eq.mp hlti with hbefore | rfl
    · have := hscanned hbefore
      omega
    · omega

theorem PlaceOk.read_tick {N start : Nat} {cells : List ι} {mem : Ring ι V} (hmarked : mem.Marked N)
    {c : Client ι V} (hlast : -1 ≤ c.lastTickCount) {latest count : Nat}
    (hplace : c.place = .tick latest count)
    (h : Fresh N start mem latest ∧ c.lastTickCount < mem.tick latest) :
    PlaceOk N cells start mem (c.read N cells mem) := by
  obtain ⟨hfresh, hlt⟩ := h
  unfold Client.read
  simp only [hplace]
  split_ifs with hcount
  · obtain ⟨k, hk⟩ := Int.eq_ofNat_of_zero_le (show 0 ≤ mem.tick latest by omega)
    have hbound := (hmarked.bound latest).2
    have hstart := hfresh.tick
    refine ⟨hfresh.lt, hlt, Int.le_refl _, k, hk, by omega, by omega,
      (hmarked.mark latest hfresh.lt k hk).1, List.Subset.refl _, ?_⟩
    exact fun i hi hnot => absurd hi hnot
  · intro hresult
    contradiction

theorem PlaceOk.read_copy {N start : Nat} {cells : List ι} {mem : Ring ι V} (hmarked : mem.Marked N)
    {c : Client ι V} {latest count : Nat} {curTickCount : Int} {left : List ι}
    (hplace : c.place = .copy latest count curTickCount left)
    (h : latest < N ∧ c.lastTickCount < curTickCount ∧ curTickCount ≤ mem.tick latest ∧
      ∃ k : Nat, curTickCount = k ∧ start ≤ k + 1 ∧ k < mem.count ∧ k % N = latest ∧ left ⊆ cells ∧
        ∀ i ∈ cells, i ∉ left → Copied N mem k c.data i) :
    PlaceOk N cells start mem (c.read N cells mem) := by
  obtain ⟨hlatest, hlt, htick, k, hk, hstart, hcount, hmod, hsubset, hcopied⟩ := h
  unfold Client.read
  cases left with
  | nil =>
    simp only [hplace]
    split_ifs with hsame
    · exact fun _ _ => ⟨k, hk, hstart, hcount, fun i hi => hcopied i hi (by simp)⟩
    · exact ⟨⟨hlatest, by omega⟩, Int.lt_of_lt_of_le hlt htick⟩
  | cons i left =>
    simp only [hplace]
    refine ⟨hlatest, hlt, htick, k, hk, hstart, hcount, hmod, (List.subset_of_cons_subset hsubset), ?_⟩
    intro j hj hnot
    by_cases hji : j = i
    · subst hji
      intro hN' image himage
      obtain ⟨-, hcell⟩ := hmarked.image k hcount hN'
      rw [hcell, hmod] at himage
      cases himage
      exact Function.update_self ..
    · intro hN' image himage
      dsimp only
      rw [Function.update_of_ne hji]
      exact hcopied j hj (by simp [hji, hnot]) hN' image himage

/-- **Read.** One access of the memory keeps what holds inside the call. -/
theorem PlaceOk.read {N : Nat} (hN : 0 < N) {cells : List ι} {start : Nat} {mem : Ring ι V}
    (hmarked : mem.Marked N) (hnewest : (start : Int) ≤ mem.tick ((start - 1) % N) + 1)
    {c : Client ι V} (hlast : -1 ≤ c.lastTickCount) (h : PlaceOk N cells start mem c) :
    PlaceOk N cells start mem (c.read N cells mem) := by
  unfold PlaceOk at h
  cases hplace : c.place with
  | returned result => simpa only [Client.read, hplace, PlaceOk] using h
  | scan latest i =>
    simp only [hplace] at h
    obtain ⟨hlatest, hscanned⟩ := h
    simp only [Client.read, hplace]
    split_ifs with hi
    · exact ⟨hlatest, hi, Int.le_refl _, hscanned⟩
    · have hall : (start - 1) % N < i := Nat.lt_of_lt_of_le (Nat.mod_lt _ hN) (Nat.le_of_not_lt hi)
      exact ⟨hlatest, hscanned hall⟩
  | scanned latest i latestTick =>
    simp only [hplace] at h
    exact .read_scanned hnewest hplace h
  | newer latest =>
    simp only [hplace] at h
    simp only [Client.read, hplace]
    split_ifs with hlt hdata
    · exact ⟨h, hlt⟩
    · exact ⟨h, hlt, by simpa using hdata⟩
    · exact h
  | mark latest =>
    simp only [hplace] at h
    simp only [Client.read, hplace]
    intro _ hdata
    rw [h.2.2] at hdata
    contradiction
  | tick latest count =>
    simp only [hplace] at h
    exact .read_tick hmarked hlast hplace h
  | copy latest count curTickCount left =>
    simp only [hplace] at h
    exact .read_copy hmarked hplace h
  | older latest =>
    simp only [hplace] at h
    simp only [Client.read, hplace]
    split_ifs
    · exact h
    · intro hresult
      contradiction
  | reset latest =>
    simp only [Client.read, hplace]
    intro hresult
    contradiction

/-- What a read does to the last tick. -/
theorem lastTickCount_read {N : Nat} {cells : List ι} {start : Nat} {mem : Ring ι V}
    (hmarked : mem.Marked N) {c : Client ι V} (h : PlaceOk N cells start mem c) :
    c.read N cells mem = c ∧ c.place.result ≠ none ∨
    c.place.result = none ∧ (c.read N cells mem).lastTickCount = c.lastTickCount ∧
      (c.read N cells mem).place.result ≠ some true ∨
    c.place.result = none ∧ (c.read N cells mem).place.result = some true ∧
      c.lastTickCount < (c.read N cells mem).lastTickCount ∧
      (c.read N cells mem).lastTickCount < mem.count ∨
    c.place.result = none ∧ (c.read N cells mem).place.result = some false ∧
      -1 ≤ (c.read N cells mem).lastTickCount ∧ (start : Int) ≤ (c.read N cells mem).lastTickCount + 1 := by
  unfold PlaceOk at h
  unfold Client.read
  cases hplace : c.place with
  | returned result => exact .inl ⟨rfl, by simp [Place.result]⟩
  | scan latest i | newer latest | tick latest count | older latest =>
    right; left
    simp only
    split_ifs <;> simp [Place.result]
  | scanned latest i latestTick => exact .inr (.inl ⟨rfl, rfl, by simp [Place.result]⟩)
  | mark latest =>
    simp only [hplace] at h
    exact .inr (.inr (.inl ⟨rfl, rfl, h.2.1, (hmarked.bound latest).2⟩))
  | reset latest =>
    simp only [hplace] at h
    exact .inr (.inr (.inr ⟨rfl, rfl, (hmarked.bound latest).1, h.tick⟩))
  | copy latest count curTickCount left =>
    simp only [hplace] at h
    cases left with
    | cons i left => exact .inr (.inl ⟨rfl, rfl, by simp [Place.result]⟩)
    | nil =>
      simp only
      split_ifs with hsame
      · refine .inr (.inr (.inl ⟨rfl, rfl, h.2.1, ?_⟩))
        simp only [hsame]
        exact (hmarked.bound latest).2
      · exact .inr (.inl ⟨rfl, rfl, by simp [Place.result]⟩)

theorem InCall.lastTickCount_read {N : Nat} {cells : List ι} {start : Nat} {s : System ι V}
    (h : InCall N cells start s) : -1 ≤ (s.client.read N cells s.mem).lastTickCount := by
  have hlast := h.lastTickCount
  rcases NewData.lastTickCount_read h.marked h.place with
    ⟨hsame, -⟩ | ⟨-, hsame, -⟩ | ⟨-, -, hlater, -⟩ | ⟨-, -, hbound, -⟩
  · rwa [hsame]
  · rwa [hsame]
  · omega
  · exact hbound

/-- A step that starts no call keeps what holds inside the call. -/
theorem InCall.step {N : Nat} (hN : 0 < N) {cells : List ι} {start : Nat} {s : System ι V}
    (h : InCall N cells start s) {a : Action ι V} (ha : ¬ IsCall a) :
    InCall N cells start (step N cells s a) := by
  cases a with
  | write i v => exact h.later (s.mem.later_write N i v) (h.marked.write i v)
  | commit => exact h.later (Ring.later_commit h.marked) (h.marked.commit hN)
  | setStatus connected => exact ⟨h.marked, h.started, h.newest, h.lastTickCount, h.place⟩
  | call hasData => exact absurd trivial ha
  | read =>
    exact ⟨h.marked, h.started, h.newest, h.lastTickCount_read,
      h.place.read hN h.marked h.newest h.lastTickCount⟩

/-- A call starts with what holds inside it. -/
theorem InCall.call {N : Nat} (hN : 1 < N) {cells : List ι} {start : Nat} {s : System ι V}
    (h : InCall N cells start s) {result : Bool} (hready : s.client.place = .returned result)
    (hasData : Bool) : InCall N cells s.mem.count (NewData.step N cells s (.call hasData)) := by
  have hnewest := h.marked.newest hN
  unfold NewData.step Client.call
  rw [hready]
  split_ifs
  · refine ⟨h.marked, Nat.le_refl _, hnewest, h.lastTickCount, Nat.lt_of_succ_lt hN, ?_⟩
    intro hfirst
    have hzero : (s.mem.count - 1) % N = 0 := Nat.lt_one_iff.mp hfirst
    rw [hzero] at hnewest
    exact hnewest
  · refine ⟨h.marked, Nat.le_refl _, hnewest, neg_one_le_intMax, ?_⟩
    intro hresult
    contradiction

/-! ## Runs -/

theorem call_of_inside {s : System ι V} (h : ∀ result, s.client.place ≠ .returned result) (N : Nat)
    (cells : List ι) (hasData : Bool) : step N cells s (.call hasData) = s := by
  have hsame : s.client.call s.connected hasData = s.client := by
    unfold Client.call
    split
    · rename_i result hplace
      exact absurd hplace (h result)
    · rfl
  rw [step, hsame]

/-- What holds in every state that is reached. -/
def Sound (N : Nat) (cells : List ι) (s : System ι V) : Prop := ∃ start, InCall N cells start s

theorem Sound.step {N : Nat} (hN : 1 < N) {cells : List ι} {s : System ι V} (h : Sound N cells s)
    (a : Action ι V) : Sound N cells (step N cells s a) := by
  obtain ⟨start, h⟩ := h
  by_cases ha : IsCall a
  · cases a with
    | call hasData =>
      by_cases hready : ∃ result, s.client.place = .returned result
      · obtain ⟨result, hready⟩ := hready
        exact ⟨_, h.call hN hready hasData⟩
      · rw [call_of_inside fun result hplace => hready ⟨result, hplace⟩]
        exact ⟨start, h⟩
    | write i v | commit | setStatus connected | read => exact absurd ha id
  · exact ⟨start, h.step (Nat.lt_of_succ_lt hN) ha⟩

theorem sound_run {N : Nat} (hN : 1 < N) (cells : List ι) (cell : Nat → ι → V) (data : ι → V)
    (actions : List (Action ι V)) : Sound N cells (run (step N cells) (init cell data) actions) :=
  run_invariant_of_step (fun _ a h => h.step hN a) actions ⟨0, inCall_init hN cells cell data⟩

theorem InCall.run {N : Nat} (hN : 0 < N) {cells : List ι} {start : Nat} {s : System ι V}
    (h : InCall N cells start s) {inside : List (Action ι V)} (hinside : ∀ a ∈ inside, ¬ IsCall a) :
    InCall N cells start (Run.run (NewData.step N cells) s inside) :=
  run_invariant_of_forall (fun _ _ ha hs => hs.step hN ha) hinside h

theorem count_run (N : Nat) (cells : List ι) (s : System ι V) (actions : List (Action ι V)) :
    (run (step N cells) s actions).mem.count = s.mem.count + commits actions := by
  induction actions generalizing s with
  | nil => rfl
  | cons a actions ih =>
    rw [run_cons, ih]
    cases a with
    | commit =>
      have hcommits : commits (.commit :: actions) = commits actions + 1 := by simp [commits]
      rw [hcommits, step, Ring.count_commit]
      omega
    | write i v | setStatus connected | call hasData | read => rfl

/-- The client has a place for the data, or the call was refused. -/
def Asked (s : System ι V) : Prop := s.client.hasData = true ∨ s.client.place = .returned false

theorem Asked.step {N : Nat} {cells : List ι} {s : System ι V} (h : Asked s) {a : Action ι V}
    (ha : ¬ IsCall a) : Asked (step N cells s a) := by
  cases a with
  | call hasData => exact absurd trivial ha
  | write i v | commit | setStatus connected => exact h
  | read =>
    rcases h with hdata | hplace
    · left
      unfold NewData.step Client.read
      dsimp only
      split <;> (try split_ifs) <;> exact hdata
    · right
      unfold NewData.step Client.read
      simp only [hplace]

theorem Asked.run {N : Nat} {cells : List ι} {s : System ι V} (h : Asked s)
    {inside : List (Action ι V)} (hinside : ∀ a ∈ inside, ¬ IsCall a) :
    Asked (Run.run (NewData.step N cells) s inside) :=
  run_invariant_of_forall (fun _ _ ha hs => hs.step ha) hinside h

theorem asked_call {N : Nat} {cells : List ι} {s : System ι V} {result : Bool}
    (hready : s.client.place = .returned result) : Asked (step N cells s (.call true)) := by
  unfold step Client.call Asked
  rw [hready]
  split_ifs
  · exact .inl rfl
  · exact .inr rfl

/-- A call that returns true has copied each cell in some image since that of one tick. -/
theorem copied_of_returned {N : Nat} (hN : 1 < N) (cells : List ι) (cell : Nat → ι → V) (data : ι → V)
    (before inside : List (Action ι V)) {result : Bool}
    (hready : (run (step N cells) (init cell data) before).client.place = .returned result)
    (hinside : ∀ a ∈ inside, ¬ IsCall a)
    (hdone : (run (step N cells) (init cell data) (before ++ .call true :: inside)).client.place =
      .returned true) :
    let start := run (step N cells) (init cell data) before
    let s := run (step N cells) (init cell data) (before ++ .call true :: inside)
    s.mem.count = start.mem.count + commits inside ∧
      ∃ k : Nat, s.client.lastTickCount = k ∧ start.mem.count ≤ k + 1 ∧ k < s.mem.count ∧
        ∀ i ∈ cells, Copied N s.mem k s.client.data i := by
  intro start s
  obtain ⟨_, hsound⟩ := sound_run hN cells cell data before
  have hs : s = run (step N cells) (step N cells start (.call true)) inside := by
    simp only [s, start, run_append, run_cons]
  have hcall := (hsound.call hN hready true).run (Nat.lt_of_succ_lt hN) hinside
  have hasked : Asked s := by
    rw [hs]
    exact (asked_call hready).run hinside
  have hcount := count_run N cells (step N cells start (.call true)) inside
  rw [← hs] at hcall hcount
  have hdata : s.client.hasData = true := by
    refine hasked.resolve_right fun hplace => ?_
    rw [show s.client.place = .returned true from hdone] at hplace
    cases hplace
  have hplace := hcall.place
  unfold PlaceOk at hplace
  rw [show s.client.place = .returned true from hdone] at hplace
  exact ⟨hcount, hplace rfl hdata⟩

/-- **Snapshot.** When at most `N - 2` images are finished while a call runs, the data of the call are
one image, and no older than the newest one at the start of the call. -/
theorem getNewData_image {N : Nat} (hN : 1 < N) (cells : List ι) (cell : Nat → ι → V) (data : ι → V)
    (before inside : List (Action ι V)) {result : Bool}
    (hready : (run (step N cells) (init cell data) before).client.place = .returned result)
    (hinside : ∀ a ∈ inside, ¬ IsCall a) (hcommits : commits inside + 2 ≤ N)
    (hdone : (run (step N cells) (init cell data) (before ++ .call true :: inside)).client.place =
      .returned true) :
    let start := run (step N cells) (init cell data) before
    let s := run (step N cells) (init cell data) (before ++ .call true :: inside)
    ∃ (k : Nat) (image : ι → V), s.client.lastTickCount = k ∧ start.mem.count ≤ k + 1 ∧
      s.mem.images[k]? = some image ∧ ∀ i ∈ cells, s.client.data i = image i := by
  intro start s
  obtain ⟨hcount, k, hlast, hstart, hk, hcopied⟩ :=
    copied_of_returned hN cells cell data before inside hready hinside hdone
  have hbound : s.mem.count < k + N := by
    change start.mem.count ≤ k + 1 at hstart
    change s.mem.count = start.mem.count + commits inside at hcount
    omega
  obtain ⟨image, himage⟩ : ∃ image, s.mem.images[k]? = some image :=
    ⟨_, List.getElem?_eq_getElem hk⟩
  exact ⟨k, image, hlast, hstart, himage, fun i hi => hcopied i hi hbound image himage⟩

/-- Three buffers: a call without news, and the first image. -/
def firstImage : List (Action Bool Bool) :=
  .setStatus true :: .call true :: List.replicate 8 .read ++ [.commit]

/-- An image is finished while the client copies. -/
def secondImage : List (Action Bool Bool) :=
  List.replicate 8 .read ++ .write true true :: .commit :: List.replicate 2 .read

theorem getNewData_image_three :
    let start := run (step 3 [false, true]) (init (fun _ _ => false) fun _ => false) firstImage
    let s := run (step 3 [false, true]) (init (fun _ _ => false) fun _ => false)
      (firstImage ++ .call true :: secondImage)
    ∃ (k : Nat) (image : Bool → Bool), s.client.lastTickCount = k ∧ start.mem.count ≤ k + 1 ∧
      s.mem.images[k]? = some image ∧ ∀ i ∈ [false, true], s.client.data i = image i :=
  getNewData_image (by decide) [false, true] _ _ firstImage secondImage rfl (by decide) (by decide) rfl

/-! ## The order of the ticks -/

/-- Every tick that was received so far is at most `last`. -/
structure Ordered (N : Nat) (cells : List ι) (last : Int) (s : System ι V) : Prop where
  lastTickCount : last ≤ s.client.lastTickCount
  count : last < s.mem.count
  inCall : ∃ start, InCall N cells start s ∧ (s.client.place.result = none → last < start)

theorem Ordered.of_client {N : Nat} (hN : 1 < N) {cells : List ι} {last : Int} {s : System ι V}
    (h : Ordered N cells last s) {a : Action ι V} (ha : ¬ IsCall a)
    (hclient : (step N cells s a).client = s.client) : Ordered N cells last (step N cells s a) := by
  obtain ⟨start, hinCall, hstart⟩ := h.inCall
  refine ⟨by rw [hclient]; exact h.lastTickCount, ?_, start, hinCall.step (Nat.lt_of_succ_lt hN) ha, ?_⟩
  · have hlater := count_run N cells s [a]
    rw [run_cons, run_nil] at hlater
    have := h.count
    omega
  · rw [hclient]
    exact hstart

theorem Ordered.call {N : Nat} (hN : 1 < N) {cells : List ι} {last : Int} {s : System ι V}
    (h : Ordered N cells last s) (hmax : (s.mem.count : Int) ≤ intMax) (hasData : Bool) :
    Ordered N cells last (step N cells s (.call hasData)) := by
  by_cases hready : ∃ result, s.client.place = .returned result
  · obtain ⟨result, hready⟩ := hready
    obtain ⟨start, hinCall, -⟩ := h.inCall
    refine ⟨?_, h.count, _, hinCall.call hN hready hasData, fun _ => h.count⟩
    unfold step Client.call
    rw [hready]
    have hcount := h.count
    split_ifs
    · exact h.lastTickCount
    · exact Int.le_of_lt (Int.lt_of_lt_of_le hcount hmax)
  · rw [call_of_inside fun result hplace => hready ⟨result, hplace⟩]
    exact h

/-- **Order.** A read keeps the order, or receives a later tick. -/
theorem Ordered.read {N : Nat} (hN : 1 < N) {cells : List ι} {last : Int} {s : System ι V}
    (h : Ordered N cells last s) :
    let s' := step N cells s .read
    if s.client.place.result = none ∧ s'.client.place.result = some true then
      last < s'.client.lastTickCount ∧ Ordered N cells s'.client.lastTickCount s'
    else Ordered N cells last s' := by
  obtain ⟨start, hinCall, hstart⟩ := h.inCall
  intro s'
  have hnext : InCall N cells start s' := hinCall.step (Nat.lt_of_succ_lt hN) id
  have hkeep (hinside : s.client.place.result = none) (hlast : last ≤ s'.client.lastTickCount) :
      Ordered N cells last s' := ⟨hlast, h.count, start, hnext, fun _ => hstart hinside⟩
  rcases lastTickCount_read hinCall.marked hinCall.place with
    ⟨hsame, hready⟩ | ⟨hinside, hsame, hresult⟩ | ⟨hinside, hresult, hlater, hbound⟩ |
    ⟨hinside, hresult, -, hfresh⟩
  · have hs : s' = s := by
      simp only [s', step, hsame]
    rw [if_neg (fun hreceived => hready hreceived.1), hs]
    exact h
  · rw [if_neg (fun hreceived => hresult hreceived.2)]
    refine hkeep hinside ?_
    rw [show s'.client.lastTickCount = s.client.lastTickCount from hsame]
    exact h.lastTickCount
  · rw [if_pos ⟨hinside, hresult⟩]
    refine ⟨Int.lt_of_le_of_lt h.lastTickCount hlater, Int.le_refl _, hbound, start, hnext, ?_⟩
    intro hnone
    rw [show s'.client.place.result = some true from hresult] at hnone
    contradiction
  · rw [if_neg]
    · have hlast := hstart hinside
      change (start : Int) ≤ s'.client.lastTickCount + 1 at hfresh
      exact hkeep hinside (by omega)
    · rintro ⟨-, hreceived⟩
      rw [show s'.client.place.result = some false from hresult] at hreceived
      cases hreceived

theorem not_received_call (N : Nat) (cells : List ι) (s : System ι V) (hasData : Bool) :
    ¬ (s.client.place.result = none ∧
      (step N cells s (.call hasData)).client.place.result = some true) := by
  rintro ⟨hinside, hreceived⟩
  rw [call_of_inside ?_, hinside] at hreceived
  · contradiction
  · intro result hplace
    rw [hplace] at hinside
    contradiction

theorem received_ordered {N : Nat} (hN : 1 < N) {cells : List ι} {last : Int} {s : System ι V}
    (h : Ordered N cells last s) (actions : List (Action ι V))
    (hmax : ((s.mem.count + commits actions : Nat) : Int) ≤ intMax) :
    (received N cells s actions).Pairwise (· < ·) ∧ ∀ t ∈ received N cells s actions, last < t := by
  induction actions generalizing last s with
  | nil => exact ⟨.nil, by simp [received]⟩
  | cons a actions ih =>
    have hcount := count_run N cells s (a :: actions)
    rw [run_cons, count_run] at hcount
    rw [← hcount] at hmax
    rw [received]
    have hsame (hclient : (step N cells s a).client = s.client) : ¬ (s.client.place.result = none ∧
        (step N cells s a).client.place.result = some true) := by
      rw [hclient]
      rintro ⟨hnone, hsome⟩
      rw [hnone] at hsome
      contradiction
    cases a with
    | write i v | commit | setStatus connected =>
      rw [if_neg (hsame rfl)]
      exact ih (h.of_client hN id rfl) hmax
    | call hasData =>
      rw [if_neg (not_received_call N cells s hasData)]
      have hstart : (s.mem.count : Int) ≤ intMax := by
        have hsame : (step N cells s (.call hasData)).mem.count = s.mem.count := rfl
        omega
      exact ih (h.call hN hstart hasData) hmax
    | read =>
      have hread := h.read hN
      dsimp only at hread
      split_ifs with hreceived
      · rw [if_pos hreceived] at hread
        obtain ⟨hpairwise, hlater⟩ := ih hread.2 hmax
        refine ⟨List.pairwise_cons.mpr ⟨hlater, hpairwise⟩, ?_⟩
        intro t ht
        rcases List.mem_cons.mp ht with rfl | ht
        · exact hread.1
        · exact Int.lt_trans hread.1 (hlater t ht)
      · rw [if_neg hreceived] at hread
        exact ih hread hmax

/-- **Ticks.** A client receives later and later ticks, over any number of calls and disconnects. -/
theorem received_increasing {N : Nat} (hN : 1 < N) (cells : List ι) (cell : Nat → ι → V)
    (data : ι → V) (actions : List (Action ι V)) (hmax : (commits actions : Int) ≤ intMax) :
    (received N cells (init cell data) actions).Pairwise (· < ·) := by
  have hcount : (init cell data).mem.count = 0 := rfl
  have hinit : Ordered N cells (-1) (init cell data) := by
    refine ⟨neg_one_le_intMax, by omega, 0, inCall_init hN cells cell data, ?_⟩
    intro hnone
    cases hnone
  refine (received_ordered hN hinit actions ?_).1
  rw [hcount, Nat.zero_add]
  exact hmax

theorem received_three :
    (received 3 [false, true] (init (fun _ _ => false) fun _ => false)
      (firstImage ++ .call true :: secondImage)).Pairwise (· < ·) :=
  received_increasing (by decide) [false, true] _ _ _ (by decide)

end IrPitCrew.NewData
