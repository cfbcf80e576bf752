import Grype.Db.Differ

/-!
# Runs of the differ

What a sequence of `SetBaseDB` and `SetTargetDB` calls does to a differ that `NewDiffer` built:
which differs it can reach, and which of its calls fail. `Differ.run_append` splits a run at any
call, so that `Differ.run_error_at` reads the error of the call at position `pre.length` off the
differ that the calls before it leave. `run_get` of `Differ.lean` gives that differ in closed form
(`differAfter`), and `newDiffer_run_error` puts the two together for every call of every run.

`Reachable` holds of the differs that `NewDiffer(c)` and then setter calls produce.
`reachable_iff` shows that these are exactly the differs whose two curators are each `NewDiffer`'s
or the curator built for a string that `ParseRequestURI` does not take for a URL, in any
combination: a call given a URL never changes the differ, and the two slots are set independently.

Once `SetBaseDB` has been given a path, the base curator has no listing URL, and every later call
given a URL, to either setter, fetches its listing through that curator.
`url_fails_after_base_path` shows that all of them fail when a curator without a listing URL
cannot fetch a listing.
-/

namespace Grype.Db

variable (env : Env)

/-! ### Splitting a run -/

/-- A run gives one error per call. -/
@[simp] theorem Differ.length_run (d : Differ) (calls : List Call) :
    (d.run env calls).2.length = calls.length := by
  induction calls generalizing d with
  | nil => rfl
  | cons c cs ih => simp [Differ.run_cons, ih]

/-- Running `xs ++ ys` runs `xs`, then `ys` from the differ that `xs` leaves. -/
theorem Differ.run_append (d : Differ) (xs ys : List Call) :
    d.run env (xs ++ ys) =
      (((d.run env xs).1.run env ys).1, (d.run env xs).2 ++ ((d.run env xs).1.run env ys).2) := by
  induction xs generalizing d with
  | nil => rfl
  | cons c cs ih => simp only [List.cons_append, Differ.run_cons, ih]

/-- The call at position `pre.length` fails as it would on the differ that the calls before it
leave. -/
theorem Differ.run_error_at (d : Differ) (pre : List Call) (c : Call) (post : List Call) :
    (d.run env (pre ++ c :: post)).2[pre.length]? = some ((d.run env pre).1.call env c).2 := by
  rw [Differ.run_append, List.getElem?_append_right (by simp), Differ.run_cons]
  simp

/-- A call that fails leaves the differ as it was, unless it was given a path that `NewCurator`
rejects: then `*curator, err = NewCurator(...)` has already put the zero curator in the setter's
slot, and the curator it held is lost. -/
theorem call_failed (d : Differ) (c : Call) (h : (d.call env c).2.isSome) :
    (d.call env c).1 = d ∨
      (requestURL env c.arg = none ∧ (d.call env c).1 = d.set c.slot .zero) := by
  rw [Differ.call_eq] at h ⊢
  unfold setOrDownload at h ⊢
  cases hu : requestURL env c.arg with
  | some u => exact .inl rfl
  | none =>
    refine .inr ⟨rfl, ?_⟩
    simp only [hu, newCurator] at h ⊢
    cases he : env.newCuratorError (pathConfig c.arg) <;> simp_all

/-! ### Every call of a run from `NewDiffer` -/

/-- The directory under `diff/` that `NewDiffer` gives a slot's curator. -/
def Slot.name : Slot → String
  | .base => "base"
  | .target => "target"

/-- The curator that `NewDiffer(c)` builds for a slot. -/
def initialCurator (c : Config) (slot : Slot) : Curator := .ofConfig (diffConfig env c slot.name)

/-- `NewDiffer(c)` holds `initialCurator` in each slot. -/
theorem newDiffer_get (c : Config) (d : Differ) (hd : newDiffer env c = .ok d) (slot : Slot) :
    d.get slot = initialCurator env c slot := by
  rw [newDiffer_eq_ok env c d hd]
  cases slot <;> rfl

/-- The differs that `NewDiffer(c)` builds and setter calls then reach. -/
inductive Reachable (c : Config) : Differ → Prop
  | init {d : Differ} : newDiffer env c = .ok d → Reachable c d
  | call {d : Differ} (call : Call) : Reachable c d → Reachable c (d.call env call).1

/-- A curator that a slot can hold: `NewDiffer`'s, or the one built for a string that
`ParseRequestURI` does not take for a URL. -/
def SlotCurator (c : Config) (slot : Slot) (cur : Curator) : Prop :=
  cur = initialCurator env c slot ∨ ∃ p, requestURL env p = none ∧ cur = pathCurator env p

/-- The setter of `slot`, given `s`. -/
def Slot.setter : Slot → String → Call
  | .base, s => .setBaseDB s
  | .target, s => .setTargetDB s

@[simp] theorem Differ.set_get (d : Differ) (slot : Slot) : d.set slot (d.get slot) = d := by
  cases slot <;> rfl

/-- A setter given a path sets its slot to the path's curator, and nothing else. -/
theorem call_setter_path (d : Differ) (slot : Slot) (p : String) (hp : requestURL env p = none) :
    (d.call env (slot.setter p)).1 = d.set slot (pathCurator env p) := by
  cases slot <;> simp [Slot.setter, Differ.call, setOrDownload, hp, pathCurator]

/-- Every curator of a reachable differ is one that its slot can hold. -/
theorem Reachable.slotCurator {c : Config} {d : Differ} (h : Reachable env c d) (slot : Slot) :
    SlotCurator env c slot (d.get slot) := by
  induction h with
  | init hd => exact .inl (newDiffer_get env c _ hd slot)
  | call call _ ih =>
    rw [call_get]
    unfold slotPath
    split_ifs with hs
    · exact .inr ⟨_, hs.2, rfl⟩
    · exact ih

/-- A slot that still holds `NewDiffer`'s curator can be given any curator it can hold. -/
theorem Reachable.set {c : Config} {d : Differ} (h : Reachable env c d) (slot : Slot)
    (cur : Curator) (hcur : SlotCurator env c slot cur)
    (hinit : d.get slot = initialCurator env c slot) : Reachable env c (d.set slot cur) := by
  rcases hcur with rfl | ⟨p, hp, rfl⟩
  · rwa [← hinit, Differ.set_get]
  · rw [← call_setter_path env d slot p hp]
    exact .call _ h

/-- The differs that `NewDiffer(c)` and setter calls reach are exactly those whose two curators
are each `NewDiffer`'s or the curator built for a string that `ParseRequestURI` does not take for a
URL, in every combination of the two, provided `NewDiffer(c)` succeeds. -/
theorem reachable_iff (c : Config) (d : Differ) :
    Reachable env c d ↔
      (∃ d₀, newDiffer env c = .ok d₀) ∧ ∀ slot, SlotCurator env c slot (d.get slot) := by
  constructor
  · intro h
    refine ⟨?_, h.slotCurator env⟩
    induction h with
    | init hd => exact ⟨_, hd⟩
    | call _ _ ih => exact ih
  · rintro ⟨⟨d₀, h₀⟩, hs⟩
    -- From `NewDiffer`'s differ, give the base slot its curator, then the target slot its own.
    have h₁ := (Reachable.init h₀).set env .base _ (hs .base) (newDiffer_get env c d₀ h₀ .base)
    have h₂ := h₁.set env .target _ (hs .target) (newDiffer_get env c d₀ h₀ .target)
    cases d
    exact h₂

/-- Reachability is what runs from `NewDiffer` reach. -/
theorem reachable_iff_run (c : Config) (d : Differ) :
    Reachable env c d ↔ ∃ d₀ calls, newDiffer env c = .ok d₀ ∧ (d₀.run env calls).1 = d := by
  constructor
  · intro h
    induction h with
    | init hd => exact ⟨_, [], hd, rfl⟩
    | call call _ ih =>
      obtain ⟨d₀, calls, h₀, rfl⟩ := ih
      exact ⟨d₀, calls ++ [call], h₀, by rw [Differ.run_append]; rfl⟩
  · rintro ⟨d₀, calls, h₀, rfl⟩
    induction calls using List.reverseRecOn with
    | nil => exact .init h₀
    | append_singleton calls call ih =>
      rw [Differ.run_append]
      exact .call call ih

/-! ### After `SetBaseDB` is given a path -/

/-- A run in which `SetBaseDB` is given a path has a last base path. -/
theorem lastPath_base_isSome {calls : List Call}
    (h : ∃ p, Call.setBaseDB p ∈ calls ∧ requestURL env p = none) :
    (lastPath env .base calls).isSome := by
  obtain ⟨p, hmem, hp⟩ := h
  induction calls with
  | nil => cases hmem
  | cons c cs ih =>
    rw [lastPath, Option.isSome_or]
    rcases List.mem_cons.mp hmem with rfl | hmem
    · simp [slotPath, Call.slot, Call.arg, hp]
    · simp [ih hmem]

/-- The curator built for a path has no listing URL. -/
@[simp] theorem pathCurator_listingURL (p : String) : (pathCurator env p).listingURL = "" := by
  unfold pathCurator newCurator
  split <;> rfl

/-- Once `SetBaseDB` has been given a path, the base curator has no listing URL. -/
theorem run_base_listingURL (d : Differ) (pre : List Call)
    (hpre : ∃ p, Call.setBaseDB p ∈ pre ∧ requestURL env p = none) :
    (d.run env pre).1.baseCurator.listingURL = "" := by
  obtain ⟨p, hp⟩ := Option.isSome_iff_exists.mp (lastPath_base_isSome env hpre)
  rw [← Differ.get, run_get, hp, Option.map_some', Option.getD_some, pathCurator_listingURL]

/-- Once `SetBaseDB` has been given a path, every later call given a URL, to either setter, fails,
when a curator without a listing URL cannot fetch a listing: the listing is fetched through the
base curator, whichever slot the call sets. -/
theorem url_fails_after_base_path (d : Differ)
    (hfetch : ∀ cur : Curator, cur.listingURL = "" → ∃ err, env.listingFromURL cur = .error err)
    (pre : List Call) (hpre : ∃ p, Call.setBaseDB p ∈ pre ∧ requestURL env p = none)
    (call : Call) (hurl : (requestURL env call.arg).isSome) (post : List Call) :
    ∃ err, (d.run env (pre ++ call :: post)).2[pre.length]? = some (some err) := by
  obtain ⟨err, herr⟩ := hfetch _ (run_base_listingURL env d pre hpre)
  obtain ⟨u, hu⟩ := Option.isSome_iff_exists.mp hurl
  refine ⟨err, ?_⟩
  rw [Differ.run_error_at, Differ.call_eq, setOrDownload, hu]
  simp [downloadURL, herr]

/-- In the example environment, after `SetBaseDB("/tmp/base")`, `SetTargetDB` of the listing's
archive fails. -/
theorem url_fails_after_base_path_example :
    ∃ err, (exampleDiffer.run exampleEnv ([.setBaseDB "/tmp/base"] ++
        .setTargetDB "https://example.com/vulnerability-db_v5.tar.gz" :: [])).2[1]? =
      some (some err) :=
  url_fails_after_base_path exampleEnv exampleDiffer
    (fun cur h => ⟨.text "unable to download listing", by simp [exampleEnv, h]⟩)
    [.setBaseDB "/tmp/base"] ⟨"/tmp/base", List.mem_singleton_self _, rfl⟩
    (.setTargetDB "https://example.com/vulnerability-db_v5.tar.gz") rfl []

end Grype.Db
