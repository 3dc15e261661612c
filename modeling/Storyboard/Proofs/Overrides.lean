import Storyboard.Options

/-!
# Command-line overrides of the runtime settings

`Options.applyTo` lays the options of a command line over a project's runtime settings: a
`--max-depth` replaces the depth limit, and each `--allow-domain` host goes through
`Settings.allowDomain`, which appends it unless an allowed host already equals it ignoring ASCII
case.

The hosts of a command line are its `--allow-domain=` words in order (`parse_allowedDomains`):
no other option starts the same way. Allowing hosts one after another keeps the allowed hosts in
place and appends some of the new ones, in order, each different ignoring case from every host
before it (`FreshHosts`, carried one host at a time by `FreshHosts.cons`); afterwards every host
is allowed, so allowing them again changes nothing. Settings that already have the depth limit
and allow every host are a fixed point of the options (`applyTo_of_settled`), and one application
settles them.

Main statement: `overrides_settle_allowing_each_host_once`.
-/

namespace Storyboard

@[simp] theorem String.equalsIgnoringCase_self (a : String) : String.equalsIgnoringCase a a = true := by
  have hpairs : a.toList.zip a.toList = a.toList.map fun x => (x, x) := List.zipWith_self
  simp [String.equalsIgnoringCase, hpairs]

/-! ## Reading the hosts off a command line -/

namespace Options

theorem after?_eq_none_iff {pre word : String} :
    after? pre word = none ↔ ¬ pre.toList <+: word.toList := by
  unfold after?
  split <;> simp_all

theorem after?_append (pre rest : String) : after? pre (pre ++ rest) = some rest := by
  have hpre : (pre ++ rest).startsWith pre := by simp [String.toList_append]
  rw [after?, if_pos hpre, Option.some.injEq]
  apply String.ext
  rw [String.Slice.toString_eq, String.toList_copy_drop, String.toList_append, ← String.length_toList,
    List.drop_left]

/-- A word has a rest after a prefix exactly when it is the prefix followed by that rest. -/
theorem after?_eq_some_iff {pre word rest : String} : after? pre word = some rest ↔ word = pre ++ rest := by
  constructor
  · intro h
    unfold after? at h
    split at h
    · rename_i hpre
      obtain ⟨tail, htail⟩ := String.startsWith_string_iff.1 hpre
      rw [Option.some.injEq] at h
      subst h
      apply String.ext
      rw [String.toList_append, String.Slice.toString_eq, String.toList_copy_drop, ← htail,
        ← String.length_toList, List.drop_left]
    · cases h
  · rintro rfl
    exact after?_append pre rest

theorem prefix_of_append_eq {pre rest word : String} (h : pre ++ rest = word) :
    pre.toList <+: word.toList :=
  ⟨rest.toList, by rw [← h, String.toList_append]⟩

/-- A word that starts with one prefix does not start with another that differs from it within
their common length. -/
theorem after?_of_disagree {pre other rest : String} (h₁ : ¬ pre.toList <+: other.toList)
    (h₂ : ¬ other.toList <+: pre.toList) : after? pre (other ++ rest) = none := by
  rw [after?_eq_none_iff]
  intro hpre
  -- two prefixes of one word are prefixes of each other
  rcases List.prefix_or_prefix_of_prefix hpre (prefix_of_append_eq rfl) with h | h
  · exact h₁ h
  · exact h₂ h

/-- An `--allow-domain=` word adds its host and changes nothing else. -/
theorem step_allowDomain (o : Options) (host : String) :
    step o ("--allow-domain=" ++ host) = { o with allowedDomains := o.allowedDomains ++ [host] } := by
  unfold step
  split
  case h_14 =>
    -- the word starts with none of the prefixes tried before `--allow-domain=`
    simp (disch := simp) only [after?_of_disagree, after?_append]
  -- and it is none of the flags
  all_goals exact absurd (prefix_of_append_eq ‹_›) (by simp)

theorem step_allowedDomains_of_none {o : Options} {word : String}
    (h : after? "--allow-domain=" word = none) : (step o word).allowedDomains = o.allowedDomains := by
  unfold step
  split
  case h_14 =>
    simp only [h]
    repeat' split
    all_goals rfl
  all_goals rfl

/-- Each word adds the host it names after `--allow-domain=`, if any. -/
theorem step_allowedDomains (o : Options) (word : String) :
    (step o word).allowedDomains = o.allowedDomains ++ (after? "--allow-domain=" word).toList := by
  cases h : after? "--allow-domain=" word with
  | none => simp [step_allowedDomains_of_none h]
  | some host =>
    obtain rfl := after?_eq_some_iff.1 h
    simp [step_allowDomain]

theorem foldl_step_allowedDomains (words : List String) (o : Options) :
    (words.foldl step o).allowedDomains = o.allowedDomains ++ words.filterMap (after? "--allow-domain=") := by
  induction words generalizing o with
  | nil => simp
  | cons word rest ih =>
    rw [List.foldl_cons, ih, step_allowedDomains, List.filterMap_cons]
    cases after? "--allow-domain=" word <;> simp

/-- The hosts of a command line are its `--allow-domain=` words, in order. -/
theorem parse_allowedDomains (words : List String) :
    (parse words).allowedDomains = words.filterMap (after? "--allow-domain=") := by
  simpa [parse] using foldl_step_allowedDomains words {}

theorem mem_parse_allowedDomains {words : List String} {host : String} :
    host ∈ (parse words).allowedDomains ↔ "--allow-domain=" ++ host ∈ words := by
  simp [parse_allowedDomains, after?_eq_some_iff]

end Options

/-! ## Allowing hosts one after another -/

namespace Settings

theorem allowDomain_of_allowed {s : Settings} {host : String}
    (h : ∃ d ∈ s.allowedDomains, String.equalsIgnoringCase d host = true) : s.allowDomain host = s :=
  if_pos (List.any_eq_true.2 h)

/-- What allowing a host can do: nothing, when an allowed host equals it ignoring ASCII case, or
append it, when none does. -/
theorem allowDomain_cases (s : Settings) (host : String) :
    (∃ d ∈ s.allowedDomains, String.equalsIgnoringCase d host = true ∧ s.allowDomain host = s) ∨
    ((∀ d ∈ s.allowedDomains, String.equalsIgnoringCase d host = false) ∧
      s.allowDomain host = { s with allowedDomains := s.allowedDomains ++ [host] }) := by
  by_cases h : ∃ d ∈ s.allowedDomains, String.equalsIgnoringCase d host = true
  · obtain ⟨d, hd, he⟩ := h
    exact .inl ⟨d, hd, he, allowDomain_of_allowed ⟨d, hd, he⟩⟩
  · have hnone : s.allowedDomains.any (String.equalsIgnoringCase · host) = false := by simpa using h
    exact .inr ⟨by simpa using h, if_neg (by simp [hnone])⟩

example : ((({} : Settings).allowDomain "api.example.com").allowDomain "LOCALHOST").allowedDomains =
    ["localhost", "127.0.0.1", "api.example.com"] := by decide

@[simp] theorem allowDomain_maxEventDepth (s : Settings) (host : String) :
    (s.allowDomain host).maxEventDepth = s.maxEventDepth := by
  unfold allowDomain
  split <;> rfl

theorem allowDomain_allows (s : Settings) (host : String) :
    ∃ d ∈ (s.allowDomain host).allowedDomains, String.equalsIgnoringCase d host = true := by
  rcases allowDomain_cases s host with ⟨d, hd, he, hs⟩ | ⟨-, hs⟩
  · exact ⟨d, by rw [hs]; exact hd, he⟩
  · exact ⟨host, by simp [hs], String.equalsIgnoringCase_self host⟩

/-- The hosts `added`, put after `old`, bring no new duplicate: each differs, ignoring ASCII
case, from every host of `old` and from every host added before it. -/
structure FreshHosts (old added : List String) : Prop where
  /-- No added host equals an old one. -/
  apart_old : ∀ d ∈ old, ∀ h ∈ added, String.equalsIgnoringCase d h = false
  /-- No added host equals one added before it. -/
  apart_added : added.Pairwise fun a b => String.equalsIgnoringCase a b = false

theorem FreshHosts.nil (old : List String) : FreshHosts old [] := ⟨by simp, .nil⟩

/-- A host new to `old`, followed by hosts new to `old` and to it, are new to `old` together. -/
theorem FreshHosts.cons {old added : List String} {host : String}
    (hh : ∀ d ∈ old, String.equalsIgnoringCase d host = false) (h : FreshHosts (old ++ [host]) added) :
    FreshHosts old (host :: added) where
  apart_old d hd x hx := by
    rcases List.mem_cons.1 hx with rfl | hx
    · exact hh d hd
    · exact h.apart_old d (List.mem_append_left _ hd) x hx
  apart_added := .cons (fun x hx => h.apart_old host (by simp) x hx) h.apart_added

/-- Allowing hosts one after another keeps the allowed hosts in order and appends some of the
new ones, in order, with no new duplicate. -/
theorem foldl_allowDomain_allowedDomains (hosts : List String) (s : Settings) :
    ∃ added, (hosts.foldl allowDomain s).allowedDomains = s.allowedDomains ++ added ∧
      added.Sublist hosts ∧ FreshHosts s.allowedDomains added := by
  -- the invariant is stated from the settings the run starts from, so it is generalised
  induction hosts generalizing s with
  | nil => exact ⟨[], by simp, .slnil, .nil _⟩
  | cons host rest ih =>
    obtain ⟨added, heq, hsub, hfresh⟩ := ih (s.allowDomain host)
    rw [List.foldl_cons, heq]
    rcases allowDomain_cases s host with ⟨-, -, -, hs⟩ | ⟨hh, hs⟩
    · -- the host was allowed already: the step changes nothing
      rw [hs] at hfresh ⊢
      exact ⟨added, rfl, hsub.cons host, hfresh⟩
    · -- the host is new: it comes before the hosts the rest adds
      rw [hs] at hfresh ⊢
      exact ⟨host :: added, by simp, hsub.cons_cons host, hfresh.cons hh⟩

theorem mem_foldl_allowDomain {d : String} (hosts : List String) {s : Settings}
    (hd : d ∈ s.allowedDomains) : d ∈ (hosts.foldl allowDomain s).allowedDomains := by
  obtain ⟨added, heq, -⟩ := foldl_allowDomain_allowedDomains hosts s
  rw [heq]
  exact List.mem_append_left added hd

/-- After allowing hosts one after another, each of them is allowed ignoring ASCII case. -/
theorem foldl_allowDomain_allows (hosts : List String) (s : Settings) :
    ∀ host ∈ hosts, ∃ d ∈ (hosts.foldl allowDomain s).allowedDomains,
      String.equalsIgnoringCase d host = true := by
  induction hosts generalizing s with
  | nil => simp
  | cons first rest ih =>
    intro host hhost
    rw [List.foldl_cons]
    rcases List.mem_cons.1 hhost with rfl | hrest
    · obtain ⟨d, hd, he⟩ := allowDomain_allows s host
      exact ⟨d, mem_foldl_allowDomain rest hd, he⟩
    · exact ih (s.allowDomain first) host hrest

/-- Allowing hosts that are all allowed already changes nothing. -/
theorem foldl_allowDomain_of_allowed {hosts : List String} {s : Settings}
    (h : ∀ host ∈ hosts, ∃ d ∈ s.allowedDomains, String.equalsIgnoringCase d host = true) :
    hosts.foldl allowDomain s = s := by
  induction hosts with
  | nil => rfl
  | cons host rest ih =>
    rw [List.foldl_cons, allowDomain_of_allowed (h host List.mem_cons_self),
      ih fun x hx => h x (List.mem_cons_of_mem host hx)]

@[simp] theorem foldl_allowDomain_maxEventDepth (hosts : List String) (s : Settings) :
    (hosts.foldl allowDomain s).maxEventDepth = s.maxEventDepth := by
  induction hosts generalizing s with
  | nil => rfl
  | cons host rest ih => rw [List.foldl_cons, ih, allowDomain_maxEventDepth]

end Settings

/-! ## Laying the options over settings -/

namespace Options

/-- Laying options over settings sets the depth limit, when the options give one, and then
allows their hosts one after another. -/
theorem applyTo_eq (o : Options) (s : Settings) :
    o.applyTo s = o.allowedDomains.foldl Settings.allowDomain
      { s with maxEventDepth := o.maxDepth.getD s.maxEventDepth } := by
  cases hd : o.maxDepth <;> simp only [applyTo, hd] <;> rfl

/-- Laying options over settings keeps the allowed hosts in order and appends some of the
command-line hosts, in order, with no new duplicate. -/
theorem applyTo_allowedDomains (o : Options) (s : Settings) :
    ∃ added, (o.applyTo s).allowedDomains = s.allowedDomains ++ added ∧
      added.Sublist o.allowedDomains ∧ Settings.FreshHosts s.allowedDomains added := by
  rw [applyTo_eq]
  exact Settings.foldl_allowDomain_allowedDomains _ _

theorem applyTo_allows (o : Options) (s : Settings) :
    ∀ host ∈ o.allowedDomains, ∃ d ∈ (o.applyTo s).allowedDomains,
      String.equalsIgnoringCase d host = true := by
  rw [applyTo_eq]
  exact Settings.foldl_allowDomain_allows _ _

theorem applyTo_maxEventDepth {o : Options} {d : Nat} (hd : o.maxDepth = some d) (s : Settings) :
    (o.applyTo s).maxEventDepth = d := by
  rw [applyTo_eq, Settings.foldl_allowDomain_maxEventDepth, hd]
  rfl

/-- Settings that already have the options' depth limit and allow each of their hosts are left
as they are. -/
theorem applyTo_of_settled {o : Options} {t : Settings}
    (hdepth : ∀ d, o.maxDepth = some d → t.maxEventDepth = d)
    (hhosts : ∀ host ∈ o.allowedDomains, ∃ d ∈ t.allowedDomains, String.equalsIgnoringCase d host = true) :
    o.applyTo t = t := by
  have hself : { t with maxEventDepth := o.maxDepth.getD t.maxEventDepth } = t := by
    cases hd : o.maxDepth with
    | none => rfl
    | some d =>
      obtain rfl := hdepth d hd
      rfl
  rw [applyTo_eq, hself]
  exact Settings.foldl_allowDomain_of_allowed hhosts

/-- Laying the same options over settings twice is laying them once. -/
theorem applyTo_applyTo (o : Options) (s : Settings) : o.applyTo (o.applyTo s) = o.applyTo s :=
  applyTo_of_settled (fun _ hd => applyTo_maxEventDepth hd s) (applyTo_allows o s)

end Options

/-- The options of any command line, laid over any runtime settings, settle them at once: a
second application changes nothing. Every host given by `--allow-domain=` is then allowed,
ignoring ASCII case; the settings' own hosts keep their order, and the hosts appended are hosts
of the command line, none equal ignoring case to a host before it. -/
theorem overrides_settle_allowing_each_host_once (words : List String) (c : Settings) :
    (Options.parse words).applyTo ((Options.parse words).applyTo c) = (Options.parse words).applyTo c ∧
    (∀ host, "--allow-domain=" ++ host ∈ words →
      ∃ d ∈ ((Options.parse words).applyTo c).allowedDomains, String.equalsIgnoringCase d host = true) ∧
    ∃ added, ((Options.parse words).applyTo c).allowedDomains = c.allowedDomains ++ added ∧
      (∀ host ∈ added, "--allow-domain=" ++ host ∈ words) ∧ Settings.FreshHosts c.allowedDomains added := by
  obtain ⟨added, heq, hsub, hfresh⟩ := Options.applyTo_allowedDomains (Options.parse words) c
  refine ⟨Options.applyTo_applyTo _ c, fun host hw => ?_, added, heq, fun host hh => ?_, hfresh⟩
  · exact Options.applyTo_allows _ c host (Options.mem_parse_allowedDomains.2 hw)
  · exact Options.mem_parse_allowedDomains.1 (hsub.subset hh)

end Storyboard
