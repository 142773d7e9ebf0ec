import Mathlib.Logic.Relation
import Mathlib.Algebra.BigOperators.Intervals
import Mathlib.Algebra.Order.BigOperators.Group.Finset

/-!
# Depth-first search with a stack

A search keeps a stack of entries, each a node to open or the mark of an open one, the nodes it has finished and those
it has open. It gives up on a node that is not allowed and on one it meets again while it is open. `Returns` is the
loop itself, one rule for each way through its body, and `search` the same loop with fuel. A search that returns has
found all that lies below its start if everything there is allowed and on no cycle, and nothing otherwise; on finitely
many allowed nodes it returns.
-/

namespace DepthFirst

variable {α β : Type*}

/-- `x` leads to `y` in one step or more. -/
def Below (succ : α → List α) : α → α → Prop := Relation.TransGen fun x y => y ∈ succ x

/-- Everything below `i` is allowed and on no cycle. -/
def WellFormed (succ : α → List α) (allowed : α → Bool) (i : α) : Prop :=
  ∀ x, Below succ i x → allowed x = true ∧ ¬ Below succ x x

/-- The entries for the successors of a node, the last of them on top. -/
def pushed (succ : α → List α) (x : α) : List (α × Bool) := (succ x).reverse.map fun y => (y, false)

def search [DecidableEq α] (succ : α → List α) (allowed : α → Bool) : Nat → List (α × Bool) → List α → List α → List α
  | 0, _, _, _ => []
  | _ + 1, [], found, _ => found
  | fuel + 1, (x, finished) :: pending, found, opened =>
    if !allowed x then []
    else if finished then search succ allowed fuel pending (x :: found) (opened.erase x)
    else if x ∈ opened then []
    else if x ∈ found then search succ allowed fuel pending found opened
    else search succ allowed fuel (pushed succ x ++ (x, true) :: pending) found (x :: opened)

/-- The loop of the search returns its last argument. A mark is only taken off a node that is open. -/
inductive Returns [DecidableEq α] (succ : α → List α) (allowed : α → Bool) :
    List (α × Bool) → List α → List α → List α → Prop
  | done {found opened : List α} : Returns succ allowed [] found opened found
  | refused {x : α} {finished : Bool} {pending : List (α × Bool)} {found opened : List α} (hx : allowed x = false) :
    Returns succ allowed ((x, finished) :: pending) found opened []
  | finish {x : α} {pending : List (α × Bool)} {found opened result : List α} (hx : allowed x = true)
      (hopen : x ∈ opened)
    (h : Returns succ allowed pending (x :: found) (opened.erase x) result) :
    Returns succ allowed ((x, true) :: pending) found opened result
  | cycle {x : α} {pending : List (α × Bool)} {found opened : List α} (hx : allowed x = true) (hopen : x ∈ opened) :
    Returns succ allowed ((x, false) :: pending) found opened []
  | skip {x : α} {pending : List (α × Bool)} {found opened result : List α} (hx : allowed x = true)
      (hopen : x ∉ opened)
    (hfound : x ∈ found) (h : Returns succ allowed pending found opened result) :
    Returns succ allowed ((x, false) :: pending) found opened result
  | expand {x : α} {pending : List (α × Bool)} {found opened result : List α} (hx : allowed x = true)
      (hopen : x ∉ opened)
    (hfound : x ∉ found) (h :
      Returns succ allowed (pushed succ x ++ (x, true) :: pending) found (x :: opened) result) :
    Returns succ allowed ((x, false) :: pending) found opened result

/-- The open nodes are those whose mark is on the stack. -/
def openOn (pending : List (α × Bool)) : List α := (pending.filter Prod.snd).map Prod.fst

/-! ### Chains -/

section Chains

variable {succ : α → List α} {allowed : α → Bool} {i x : α}

private theorem Below.exists_chain (h : Below succ i x) :
    ∃ chain, List.IsChain (fun x y => y ∈ succ x) (i :: (chain ++ [x])) := by
  induction h with
  | single hx => exact ⟨[], List.isChain_pair.mpr hx⟩
  | @tail y z _ hz ih =>
    obtain ⟨chain, hchain⟩ := ih
    have hsplit : i :: (chain ++ [y] ++ [z]) = (i :: chain) ++ y :: [z] := by simp
    refine ⟨chain ++ [y], ?_⟩
    rw [hsplit]
    exact List.isChain_split.mpr ⟨hchain, List.isChain_pair.mpr hz⟩

/-- If every chain from `i` stays inside and never comes back to itself, all is well formed below `i`. -/
theorem wellFormed_of_chains {inside : α → Prop} (hallowed : ∀ x, inside x → x ≠ i → allowed x = true)
    (h : ∀ chain, List.IsChain (fun x y => y ∈ succ x) (i :: chain) → (∀ x ∈ chain, inside x) ∧ (i :: chain).Nodup) :
    WellFormed succ allowed i := by
  intro x hx
  obtain ⟨chain, hchain⟩ := hx.exists_chain
  obtain ⟨hinside, hnodup⟩ := h _ hchain
  have hne : x ≠ i := by
    rintro rfl
    simp at hnodup
  refine ⟨hallowed x (hinside x (by simp)) hne, fun hcycle => ?_⟩
  obtain ⟨around, haround⟩ := hcycle.exists_chain
  have hjoined : List.IsChain (fun x y => y ∈ succ x) ((i :: chain) ++ x :: (around ++ [x])) :=
    List.isChain_split.mpr ⟨hchain, haround⟩
  have hrepeats := (h _ hjoined).2
  simp [List.nodup_append, List.nodup_cons] at hrepeats

end Chains

/-! ### Entries -/

section Entries

variable {succ : α → List α} {pending : List (α × Bool)} {x y : α}

private theorem mem_fst_pushed : y ∈ (pushed succ x).map Prod.fst ↔ y ∈ succ x := by
  simp [pushed]

private theorem pushed_ne_mark (above below : List (α × Bool)) (v : α) :
    pushed succ x ≠ above ++ (v, true) :: below := by
  intro he
  have hmem : (v, true) ∈ pushed succ x := by
    rw [he]
    simp
  simp [pushed] at hmem

private theorem mem_openOn : x ∈ openOn pending ↔ (x, true) ∈ pending := by
  simp [openOn]

@[simp] theorem openOn_node : openOn ((x, false) :: pending) = openOn pending := rfl

@[simp] theorem openOn_mark : openOn ((x, true) :: pending) = x :: openOn pending := rfl

private theorem openOn_pushed : openOn (pushed succ x ++ pending) = openOn pending := by
  have hnone : (pushed succ x).filter Prod.snd = [] := by
    refine List.filter_eq_nil_iff.mpr fun entry hentry => ?_
    obtain ⟨y, -, rfl⟩ := List.mem_map.mp hentry
    simp
  rw [openOn, List.filter_append, hnone]
  rfl

/-- A mark below the entries just pushed is that of their node, or was on the stack before. -/
private theorem split_pushed {above below : List (α × Bool)} {v : α}
    (h : pushed succ x ++ (x, true) :: pending = above ++ (v, true) :: below) :
    (above = pushed succ x ∧ v = x) ∨
      ∃ rest, above = pushed succ x ++ (x, true) :: rest ∧ pending = rest ++ (v, true) :: below := by
  rcases List.append_eq_append_iff.mp h with ⟨rest, habove, hrest⟩ | ⟨rest, hpushed, -⟩
  · cases rest with
    | nil =>
      cases hrest
      exact .inl ⟨by simpa using habove, rfl⟩
    | cons entry rest =>
      cases hrest
      exact .inr ⟨rest, habove, rfl⟩
  · cases rest with
    | nil =>
      rw [List.append_nil] at hpushed
      rw [hpushed] at h
      have htail := List.append_cancel_left h
      cases htail
      exact .inl ⟨hpushed.symm, rfl⟩
    | cons entry rest =>
      rw [hpushed, List.append_assoc] at h
      have htail := List.append_cancel_left h
      cases htail
      exact absurd hpushed (pushed_ne_mark _ _ _)

end Entries

/-! ### What is found -/

/-- A search from `i` on its way: a finished node has all its successors finished before it, an open one has them
finished or above its mark on the stack. -/
structure SearchOk (succ : α → List α) (allowed : α → Bool) (i : α) (pending : List (α × Bool)) (found : List α) :
    Prop where
  finished : ∀ later x earlier, found = later ++ x :: earlier → allowed x = true ∧ ∀ y ∈ succ x, y ∈ earlier
  opened : ∀ above x below, pending = above ++ (x, true) :: below → ∀ y ∈ succ x, y ∈ found ∨ y ∈ above.map Prod.fst
  start : ∀ y ∈ succ i, y ∈ found ∨ y ∈ pending.map Prod.fst

/-- What is on the stack lies below the start, and what is above a mark below its node. -/
structure Reached (succ : α → List α) (i : α) (pending : List (α × Bool)) : Prop where
  below : ∀ entry ∈ pending, Below succ i entry.1
  above : ∀ above x rest, pending = above ++ (x, true) :: rest → ∀ entry ∈ above, Below succ x entry.1

section Found

variable {succ : α → List α} {allowed : α → Bool} {pending : List (α × Bool)} {found opened result : List α}
  {i x y : α}

private theorem searchOk_start : SearchOk succ allowed i (pushed succ i) [] := by
  refine ⟨fun later x earlier he => ?_, fun above x below he => absurd he (pushed_ne_mark _ _ _),
    fun y hy => .inr (mem_fst_pushed.mpr hy)⟩
  simp at he

private theorem reached_start : Reached succ i (pushed succ i) :=
  ⟨fun _ hentry => .single (mem_fst_pushed.mp (List.mem_map_of_mem hentry)),
    fun _ _ _ he => absurd he (pushed_ne_mark _ _ _)⟩

private theorem SearchOk.finish (h : SearchOk succ allowed i ((x, true) :: pending) found) (hx : allowed x = true) :
    SearchOk succ allowed i pending (x :: found) where
  finished later y earlier he := by
    cases later with
    | nil =>
      cases he
      refine ⟨hx, fun z hz => ?_⟩
      rcases h.opened [] x pending rfl z hz with hin | hin
      · exact hin
      · cases hin
    | cons b later =>
      cases he
      exact h.finished later y earlier rfl
  opened above y below he z hz := by
    rcases h.opened ((x, true) :: above) y below (by rw [he]; rfl) z hz with hin | hin
    · exact .inl (List.mem_cons_of_mem _ hin)
    · rcases List.mem_cons.mp hin with rfl | hin
      · exact .inl List.mem_cons_self
      · exact .inr hin
  start z hz := by
    rcases h.start z hz with hin | hin
    · exact .inl (List.mem_cons_of_mem _ hin)
    · rcases List.mem_cons.mp hin with rfl | hin
      · exact .inl List.mem_cons_self
      · exact .inr hin

private theorem SearchOk.skip (h : SearchOk succ allowed i ((x, false) :: pending) found) (hx : x ∈ found) :
    SearchOk succ allowed i pending found where
  finished := h.finished
  opened above y below he z hz := by
    rcases h.opened ((x, false) :: above) y below (by rw [he]; rfl) z hz with hin | hin
    · exact .inl hin
    · rcases List.mem_cons.mp hin with rfl | hin
      · exact .inl hx
      · exact .inr hin
  start z hz := by
    rcases h.start z hz with hin | hin
    · exact .inl hin
    · rcases List.mem_cons.mp hin with rfl | hin
      · exact .inl hx
      · exact .inr hin

private theorem SearchOk.expand (h : SearchOk succ allowed i ((x, false) :: pending) found) :
    SearchOk succ allowed i (pushed succ x ++ (x, true) :: pending) found where
  finished := h.finished
  opened above y below he z hz := by
    rcases split_pushed he with ⟨rfl, rfl⟩ | ⟨rest, rfl, hrest⟩
    · exact .inr (mem_fst_pushed.mpr hz)
    · refine (h.opened ((x, false) :: rest) y below (by rw [hrest]; rfl) z hz).imp_right fun hin => ?_
      rw [List.map_append]
      exact List.mem_append_right _ hin
  start z hz := by
    refine (h.start z hz).imp_right fun hin => ?_
    rw [List.map_append]
    exact List.mem_append_right _ hin

private theorem Reached.pop {entry : α × Bool} (h : Reached succ i (entry :: pending)) : Reached succ i pending where
  below other hother := h.below other (List.mem_cons_of_mem _ hother)
  above above y rest he other hother :=
    h.above (entry :: above) y rest (by rw [he]; rfl) other (List.mem_cons_of_mem _ hother)

private theorem Reached.expand (h : Reached succ i ((x, false) :: pending)) :
    Reached succ i (pushed succ x ++ (x, true) :: pending) where
  below entry hentry := by
    have hreached := h.below (x, false) List.mem_cons_self
    rcases List.mem_append.mp hentry with hin | hin
    · exact hreached.trans (.single (mem_fst_pushed.mp (List.mem_map_of_mem hin)))
    · rcases List.mem_cons.mp hin with rfl | hin
      · exact hreached
      · exact h.below entry (List.mem_cons_of_mem _ hin)
  above above y rest he entry hentry := by
    rcases split_pushed he with ⟨rfl, rfl⟩ | ⟨others, rfl, hothers⟩
    · exact .single (mem_fst_pushed.mp (List.mem_map_of_mem hentry))
    · have hold := h.above ((x, false) :: others) y rest (by rw [hothers]; rfl)
      have hself := hold (x, false) List.mem_cons_self
      rcases List.mem_append.mp hentry with hin | hin
      · exact hself.trans (.single (mem_fst_pushed.mp (List.mem_map_of_mem hin)))
      · rcases List.mem_cons.mp hin with rfl | hin
        · exact hself
        · exact hold entry (List.mem_cons_of_mem _ hin)

private theorem Reached.cycle (h : Reached succ i ((x, false) :: pending)) (hopen : x ∈ openOn pending) :
    Below succ x x := by
  obtain ⟨above, rest, rfl⟩ := List.append_of_mem (mem_openOn.mp hopen)
  exact h.above ((x, false) :: above) x rest rfl (x, false) List.mem_cons_self

private theorem Below.mem_of_closed {S : List α} (hclosed : ∀ x ∈ S, ∀ y ∈ succ x, y ∈ S) (hx : x ∈ S)
    (h : Below succ x y) :
    y ∈ S := by
  induction h with
  | single hy => exact hclosed x hx _ hy
  | tail _ hy ih => exact hclosed _ ih _ hy

/-- When the stack is empty, all that lies below the start is found, allowed and on no cycle. -/
private theorem SearchOk.done [DecidableEq α] (h : SearchOk succ allowed i [] found) (hpath : Below succ i y) :
    y ∈ found ∧ allowed y = true ∧ ¬ Below succ y y := by
  have hclosed : ∀ later earlier, found = later ++ earlier → ∀ x ∈ earlier, ∀ z ∈ succ x, z ∈ earlier := by
    intro later earlier he x hx z hz
    obtain ⟨front, back, rfl⟩ := List.append_of_mem hx
    have hin := (h.finished (later ++ front) x back (by rw [he, List.append_assoc])).2 z hz
    exact List.mem_append_right _ (List.mem_cons_of_mem _ hin)
  have hfound : y ∈ found := by
    obtain ⟨z, hz, hreach⟩ := Relation.TransGen.head'_iff.mp hpath
    have hstart : z ∈ found := (h.start z hz).resolve_right (by simp)
    rcases Relation.reflTransGen_iff_eq_or_transGen.mp hreach with rfl | hpath'
    · exact hstart
    · exact Below.mem_of_closed (hclosed [] found rfl) hstart hpath'
  refine ⟨hfound, ?_, fun hcycle => ?_⟩
  · obtain ⟨later, earlier, he⟩ := List.append_of_mem hfound
    exact (h.finished later y earlier he).1
  · -- behind the last occurrence of a node stand all its successors
    obtain ⟨later, earlier, he, hlast⟩ : ∃ later earlier, found = later ++ y :: earlier ∧ y ∉ earlier := by
      obtain ⟨front, back, he, hnot⟩ := List.eq_append_cons_of_mem (List.mem_reverse.mpr hfound)
      refine ⟨back.reverse, front.reverse, ?_, by simpa using hnot⟩
      rw [← List.reverse_reverse found, he]
      simp
    obtain ⟨z, hz, hreach⟩ := Relation.TransGen.head'_iff.mp hcycle
    have hstart := (h.finished later y earlier he).2 z hz
    rcases Relation.reflTransGen_iff_eq_or_transGen.mp hreach with rfl | hpath'
    · exact hlast hstart
    · refine hlast (Below.mem_of_closed (hclosed (later ++ [y]) earlier ?_) hstart hpath')
      rw [he, List.append_assoc]
      rfl

variable [DecidableEq α]

private theorem Returns.wellFormed (h : Returns succ allowed pending found opened result)
    (hok : SearchOk succ allowed i pending found) (hy : y ∈ result) : WellFormed succ allowed i := by
  induction h with
  | done =>
    intro x hx
    exact (hok.done hx).2
  | refused hx => cases hy
  | finish hx hopen _ ih => exact ih (hok.finish hx) hy
  | cycle hx hopen => cases hy
  | skip hx hopen hfound _ ih => exact ih (hok.skip hfound) hy
  | expand hx hopen hfound _ ih => exact ih hok.expand hy

private theorem Returns.sound (h : Returns succ allowed pending found opened result)
    (hreached : Reached succ i pending) (hfound : ∀ x ∈ found, Below succ i x) (hy : y ∈ result) :
    Below succ i y := by
  induction h with
  | done => exact hfound y hy
  | refused hx => cases hy
  | finish hx hopen _ ih =>
    refine ih hreached.pop (fun z hz => ?_) hy
    rcases List.mem_cons.mp hz with rfl | hz
    · exact hreached.below _ List.mem_cons_self
    · exact hfound z hz
  | cycle hx hopen => cases hy
  | skip hx hopen _ _ ih => exact ih hreached.pop hfound hy
  | expand hx hopen _ _ ih => exact ih hreached.expand hfound hy

/-- A search finds all that lies below its start, if that is well formed. -/
private theorem Returns.complete (h : Returns succ allowed pending found opened result)
    (hok : SearchOk succ allowed i pending found) (hreached : Reached succ i pending)
    (hopened : opened = openOn pending) (hwell : WellFormed succ allowed i) (hpath : Below succ i y) :
    y ∈ result := by
  induction h with
  | done => exact (hok.done hpath).1
  | refused hx =>
    have hallowed := (hwell _ (hreached.below _ List.mem_cons_self)).1
    rw [hx] at hallowed
    cases hallowed
  | finish hx hopen _ ih =>
    refine ih (hok.finish hx) hreached.pop ?_
    rw [hopened, openOn_mark, List.erase_cons_head]
  | cycle hx hopen =>
    rw [hopened] at hopen
    exact absurd (hreached.cycle hopen) (hwell _ (hreached.below _ List.mem_cons_self)).2
  | skip hx hopen hfound _ ih => exact ih (hok.skip hfound) hreached.pop hopened
  | expand hx hopen hfound _ ih =>
    refine ih hok.expand hreached.expand ?_
    rw [openOn_pushed, openOn_mark, hopened, openOn_node]

/-- What a search from `i` finds. -/
theorem Returns.mem_iff (h : Returns succ allowed (pushed succ i) [] [] result) :
    y ∈ result ↔ WellFormed succ allowed i ∧ Below succ i y := by
  constructor
  · intro hy
    exact ⟨h.wellFormed searchOk_start hy, h.sound reached_start (by simp) hy⟩
  · rintro ⟨hwell, hpath⟩
    refine h.complete searchOk_start reached_start ?_ hwell hpath
    rw [← List.append_nil (pushed succ i), openOn_pushed]
    rfl

end Found

/-! ### The search returns -/

section Fuel

variable [DecidableEq α] {succ : α → List α} {allowed : α → Bool} {nodes : Finset α} {pending : List (α × Bool)}
  {found opened seen seen' : List α} {i x : α} {fuel : Nat}

/-- The entries a search can still push: those of the nodes it has not seen. -/
def unseenWeight (succ : α → List α) (nodes : Finset α) (seen : List α) : Nat :=
  ∑ x ∈ nodes.filter (· ∉ seen), ((succ x).length + 1)

private theorem unseenWeight_open (hx : x ∈ nodes) (hnew : x ∉ seen) :
    unseenWeight succ nodes seen = unseenWeight succ nodes (x :: seen) + ((succ x).length + 1) := by
  have hmem : x ∈ nodes.filter (· ∉ seen) := by simp [hx, hnew]
  unfold unseenWeight
  rw [← Finset.sum_erase_add _ _ hmem]
  congr 1
  refine Finset.sum_congr ?_ fun _ _ => rfl
  ext y
  simp only [Finset.mem_erase, Finset.mem_filter, List.mem_cons, not_or]
  tauto

private theorem unseenWeight_anti (h : ∀ x ∈ seen, x ∈ seen') :
    unseenWeight succ nodes seen' ≤ unseenWeight succ nodes seen := by
  refine Finset.sum_le_sum_of_subset fun x hx => ?_
  simp only [Finset.mem_filter] at hx ⊢
  exact ⟨hx.1, fun hs => hx.2 (h x hs)⟩

private theorem unseenWeight_nil : unseenWeight succ nodes [] = ∑ x ∈ nodes, ((succ x).length + 1) := by
  simp [unseenWeight]

/-- With more fuel than there are entries on the stack and to push, the search is the loop. -/
private theorem returns_search (hnodes : ∀ x, allowed x = true → x ∈ nodes) (hopened : opened = openOn pending)
    (hfuel : pending.length + unseenWeight succ nodes (opened ++ found) < fuel) :
    Returns succ allowed pending found opened (search succ allowed fuel pending found opened) := by
  induction fuel generalizing pending found opened with
  | zero => exact absurd hfuel (Nat.not_lt_zero _)
  | succ fuel ih =>
    rcases pending with _ | ⟨⟨x, finished⟩, pending⟩
    · exact .done
    rw [List.length_cons] at hfuel
    unfold search
    cases hx : allowed x with
    | false => exact .refused hx
    | true =>
      rw [if_neg (by simp)]
      cases finished with
      | true =>
        rw [openOn_mark] at hopened
        subst hopened
        rw [if_pos rfl]
        refine .finish hx List.mem_cons_self (ih ?_ ?_)
        · rw [List.erase_cons_head]
        · rw [List.erase_cons_head]
          have hsame : unseenWeight succ nodes (openOn pending ++ x :: found) ≤
              unseenWeight succ nodes (x :: openOn pending ++ found) := by
            refine unseenWeight_anti fun y hy => ?_
            simp only [List.cons_append, List.mem_cons, List.mem_append] at hy ⊢
            tauto
          omega
      | false =>
        rw [openOn_node] at hopened
        rw [if_neg (by simp)]
        by_cases hopen : x ∈ opened
        · rw [if_pos hopen]
          exact .cycle hx hopen
        · rw [if_neg hopen]
          by_cases hfound : x ∈ found
          · rw [if_pos hfound]
            exact .skip hx hopen hfound (ih hopened (by omega))
          · rw [if_neg hfound]
            refine .expand hx hopen hfound (ih ?_ ?_)
            · rw [openOn_pushed, openOn_mark, hopened]
            · have hnew : x ∉ opened ++ found := by simp [hopen, hfound]
              rw [unseenWeight_open (hnodes x hx) hnew] at hfuel
              rw [List.length_append, pushed, List.length_map, List.length_reverse, List.length_cons,
                List.cons_append]
              omega

/-- Enough fuel for a search from `i`. -/
theorem returns_search_start (nodes : Finset α) (hnodes : ∀ x, allowed x = true → x ∈ nodes)
    (hfuel : (succ i).length + ∑ x ∈ nodes, ((succ x).length + 1) < fuel) :
    Returns succ allowed (pushed succ i) [] [] (search succ allowed fuel (pushed succ i) [] []) := by
  refine returns_search hnodes ?_ ?_
  · rw [← List.append_nil (pushed succ i), openOn_pushed]
    rfl
  · rw [List.append_nil, unseenWeight_nil, pushed, List.length_map, List.length_reverse]
    exact hfuel

end Fuel

/-- A renaming of the nodes carries a search along. -/
theorem search_map [DecidableEq α] [DecidableEq β] {succ : α → List α} {allowed : α → Bool} {succ' : β → List β}
    {allowed' : β → Bool} {f : α → β} (hf : Function.Injective f) (hsucc : ∀ x, succ' (f x) = (succ x).map f)
    (hallowed : ∀ x, allowed' (f x) = allowed x) (fuel : Nat) (pending : List (α × Bool)) (found opened : List α) :
    search succ' allowed' fuel (pending.map (Prod.map f id)) (found.map f) (opened.map f) =
      (search succ allowed fuel pending found opened).map f := by
  induction fuel generalizing pending found opened with
  | zero => rfl
  | succ fuel ih =>
    rcases pending with _ | ⟨⟨x, finished⟩, pending⟩
    · rfl
    have hpushed : pushed succ' (f x) = (pushed succ x).map (Prod.map f id) := by
      simp [pushed, hsucc, Function.comp_def]
    rw [List.map_cons, Prod.map_apply]
    unfold search
    simp only [hallowed, id_eq, List.mem_map_of_injective hf, hpushed]
    split
    · rfl
    split
    · rw [← List.map_cons, ← List.map_erase hf]
      exact ih pending (x :: found) (opened.erase x)
    split
    · rfl
    split
    · exact ih pending found opened
    · simpa using ih (pushed succ x ++ (x, true) :: pending) found (x :: opened)

end DepthFirst
