import Mathlib
import BrokerClient.Endpoint
/-!
# Broker urls

A broker url is `folkmq:` followed by a transport url, where two slashes right after the colon
stand for a TCP address. Resolving it refuses every url that does not start with `folkmq:`;
otherwise it reads the transport url with a url parser, checks its scheme and its host, and hands
on `sd:` followed by the transport url exactly as written (`Endpoint.resolveWith_eq_ok_iff`).

Of the parser, resolving needs one law (`Endpoint.ReadsLowerScheme`): a url whose scheme is
written in lowercase letters is read with that scheme. The client's parser keeps it
(`Endpoint.Url.parse_readsLowerScheme`), as it drops blanks and controls around the url,
lowercases the scheme and lets nothing after the colon change it. So the endpoint begins with
`sd:tcp://`, `sd:ws://` or `sd:wss://`, naming the scheme the check accepted, exactly when the url
is written in one of the plain forms of the documentation
(`Endpoint.resolved_prefix_iff_plain_form`). Any other url that resolves keeps its own spelling:
`folkmq:TCP://broker:18602` is accepted as TCP and handed on as `sd:TCP://broker:18602`.
-/

namespace BrokerClient.Endpoint

/-! ## The transport url inside a broker url -/

/-- The transport url written after `folkmq:`: the rest as it is, with `tcp:` put in front when
it starts with two slashes. -/
def writtenTransport (rest : String) : String :=
  if "//".toList <+: rest.toList then "tcp:" ++ rest else rest

theorem transportUrl_broker (rest : String) :
    transportUrl ("folkmq:" ++ rest) = some (writtenTransport rest) := by
  have htag : (brokerScheme ++ ":").toList = "folkmq:".toList := rfl
  have hpre : ("folkmq:".toList).isPrefixOf ("folkmq:".toList ++ rest.toList) = true :=
    List.isPrefixOf_iff_prefix.2 (List.prefix_append _ _)
  unfold transportUrl
  dsimp only
  rw [htag, String.toList_append, if_pos hpre, List.drop_left]
  -- the rest starts with two slashes or it does not
  split
  · rename_i more hmore
    have hw : writtenTransport rest = "tcp:" ++ rest := by
      rw [writtenTransport, if_pos ⟨more, by simp [hmore]⟩]
    rw [hw]
    congr 1
    apply String.toList_inj.1
    simp [hmore]
  · rename_i hmore
    have hw : writtenTransport rest = rest := by
      rw [writtenTransport, if_neg]
      rintro ⟨more, h⟩
      exact hmore more (by simpa using h.symm)
    rw [hw, String.ofList_toList]

theorem transportUrl_of_not_broker {url : String} (h : ¬∃ rest, url = "folkmq:" ++ rest) :
    transportUrl url = none := by
  have htag : (brokerScheme ++ ":").toList = "folkmq:".toList := rfl
  unfold transportUrl
  dsimp only
  rw [htag, if_neg]
  -- a url whose characters start with the tag is the tag followed by the rest
  intro hpre
  obtain ⟨more, hmore⟩ := List.isPrefixOf_iff_prefix.1 hpre
  refine h ⟨String.ofList more, String.toList_inj.1 ?_⟩
  simp [← hmore]

/-! ## Resolving -/

section Resolving

variable {parse : String → Except UrlError Url} {url inner : String}

theorem resolveWith_of_not_broker (h : ¬∃ rest, url = "folkmq:" ++ rest) :
    resolveWith parse url = .error .notBroker := by
  simp only [resolveWith, transportUrl_of_not_broker h]
  rfl

theorem resolveWith_of_parse_error {e : UrlError} (ht : transportUrl url = some inner)
    (hp : parse inner = .error e) : resolveWith parse url = .error (.malformed e) := by
  simp only [resolveWith, ht, hp]
  rfl

theorem resolveWith_of_parse_ok {u : Url} (ht : transportUrl url = some inner)
    (hp : parse inner = .ok u) :
    resolveWith parse url =
      if u.scheme ∈ ["tcp", "ws", "wss"] then
        match u.host with
        | some h => if h = "" then .error .missingHost else .ok ("sd:" ++ inner)
        | none => .error .missingHost
      else .error (.scheme u.scheme) := by
  simp only [resolveWith, ht, hp, pure_bind]
  by_cases hs : u.scheme ∈ ["tcp", "ws", "wss"]
  · have hc : (["tcp", "ws", "wss"].contains u.scheme) = true := by simpa using hs
    simp only [if_pos hs, hc, Bool.not_true, Bool.false_eq_true, if_false]
    cases u.host with
    | none => rfl
    | some h => by_cases he : h = "" <;> simp [he] <;> rfl
  · have hc : (["tcp", "ws", "wss"].contains u.scheme) = false := by simpa using hs
    simp only [if_neg hs, hc, Bool.not_false, if_true]
    rfl

theorem resolveWith_eq_ok_iff_parse {out : String} (ht : transportUrl url = some inner) :
    resolveWith parse url = .ok out ↔
      out = "sd:" ++ inner ∧ ∃ u h, parse inner = .ok u ∧
        u.scheme ∈ ["tcp", "ws", "wss"] ∧ u.host = some h ∧ h ≠ "" := by
  constructor
  · intro hr
    -- every branch of the checks but the last is an error
    rcases hp : parse inner with e | u
    · simp [resolveWith_of_parse_error ht hp] at hr
    rw [resolveWith_of_parse_ok ht hp] at hr
    by_cases hs : u.scheme ∈ ["tcp", "ws", "wss"]
    · rw [if_pos hs] at hr
      rcases hh : u.host with _ | h
      · simp [hh] at hr
      by_cases he : h = ""
      · simp [hh, he] at hr
      · simp only [hh, if_neg he, Except.ok.injEq] at hr
        exact ⟨hr.symm, u, h, rfl, hs, hh, he⟩
    · rw [if_neg hs] at hr
      cases hr
  · rintro ⟨rfl, u, h, hp, hs, hh, he⟩
    rw [resolveWith_of_parse_ok ht hp, if_pos hs, hh]
    exact if_neg he

/-- **Resolution.** A url resolves exactly when it is `folkmq:` followed by a transport url
that parses with scheme `tcp`, `ws` or `wss` and a nonempty host, and it resolves to `sd:`
followed by that transport url as written. -/
theorem resolveWith_eq_ok_iff {out : String} :
    resolveWith parse url = .ok out ↔ ∃ rest, url = "folkmq:" ++ rest ∧
      out = "sd:" ++ writtenTransport rest ∧
        ∃ u h, parse (writtenTransport rest) = .ok u ∧
          u.scheme ∈ ["tcp", "ws", "wss"] ∧ u.host = some h ∧ h ≠ "" := by
  by_cases hb : ∃ rest, url = "folkmq:" ++ rest
  · obtain ⟨rest, rfl⟩ := hb
    rw [resolveWith_eq_ok_iff_parse (transportUrl_broker rest)]
    constructor
    · intro h
      exact ⟨rest, rfl, h⟩
    · rintro ⟨rest', hrest, h⟩
      -- the tag is a fixed prefix, so the rest after it is determined by the url
      have hr : rest = rest' := String.toList_inj.1 (by simpa using congrArg String.toList hrest)
      subst hr
      exact h
  · rw [resolveWith_of_not_broker hb]
    constructor
    · intro h
      cases h
    · rintro ⟨rest, hrest, -⟩
      exact absurd ⟨rest, hrest⟩ hb

end Resolving

/-! ## The scheme a parser reads -/

/-- What resolving needs of a url parser: a url whose scheme is written in lowercase letters is
read, when it is read at all, with that scheme. -/
def ReadsLowerScheme (parse : String → Except UrlError Url) : Prop :=
  ∀ (scheme rest : String) (u : Url), scheme ≠ "" →
    (∀ c ∈ scheme.toList, c.isLower = true) → parse (scheme ++ ":" ++ rest) = .ok u →
      u.scheme = scheme

theorem char_facts_of_isLower {c : Char} (h : c.isLower = true) :
    ¬c.toNat ≤ 0x20 ∧ (c != '\t' && c != '\n' && c != '\r') = true ∧ c.isAlpha = true ∧
      c.toLower = c := by
  have hv : 97 ≤ c.toNat ∧ c.toNat ≤ 122 := by
    simp only [Char.isLower, Bool.and_eq_true, decide_eq_true_eq] at h
    exact ⟨h.1, h.2⟩
  have hne : ∀ d : Char, d.toNat < 97 → c ≠ d := fun d hd hcd => by subst hcd; omega
  refine ⟨by omega, ?_, by simp [Char.isAlpha, h], ?_⟩
  · simp [hne '\t' (by decide), hne '\n' (by decide), hne '\r' (by decide)]
  · unfold Char.toLower
    rw [dif_neg]
    rintro ⟨-, hz⟩
    have : c.toNat ≤ 90 := hz
    omega

variable {name : List Char}

theorem Url.clean_of_lower_scheme (hne : name ≠ []) (hl : ∀ c ∈ name, c.isLower = true)
    (more : List Char) :
    ∃ more', Url.clean (String.ofList (name ++ ':' :: more)) = name ++ ':' :: more' := by
  obtain ⟨c, cs, rfl⟩ := List.exists_cons_of_ne_nil hne
  have hc := char_facts_of_isLower (hl c List.mem_cons_self)
  unfold Url.clean
  simp only [String.toList_ofList]
  -- nothing is trimmed before the scheme, and trimming at the end stops at the colon
  have hfront :
      ((c :: cs) ++ ':' :: more).dropWhile (·.toNat ≤ 0x20) = (c :: cs) ++ ':' :: more := by
    rw [List.cons_append, List.dropWhile_cons]
    simp [hc.1]
  have hback : (((c :: cs) ++ ':' :: more).reverse.dropWhile (·.toNat ≤ 0x20)) =
      (more.reverse.dropWhile (·.toNat ≤ 0x20)) ++ ':' :: (c :: cs).reverse := by
    rw [List.reverse_append, List.reverse_cons, List.append_assoc, List.singleton_append,
      List.dropWhile_append]
    split
    · rename_i he
      rw [List.isEmpty_iff.1 he, List.nil_append, List.dropWhile_cons]
      simp
    · rfl
  refine ⟨((more.reverse.dropWhile (·.toNat ≤ 0x20)).reverse).filter
    (fun c => c != '\t' && c != '\n' && c != '\r'), ?_⟩
  rw [hfront, hback, List.reverse_append, List.reverse_cons, List.reverse_reverse,
    List.filter_append, List.filter_append]
  have hall : (c :: cs).filter (fun c => c != '\t' && c != '\n' && c != '\r') = c :: cs :=
    List.filter_eq_self.2 fun d hd => (char_facts_of_isLower (hl d hd)).2.1
  rw [hall]
  simp

theorem splitScheme_of_lower_scheme {more : List Char} (hne : name ≠ [])
    (hl : ∀ c ∈ name, c.isLower = true) :
    splitScheme (name ++ ':' :: more) = some (String.ofList name, more) := by
  -- the scan of the scheme takes the letters and stops at the colon
  have hname : (name ++ ':' :: more).takeWhile
      (fun c => c.isAlphanum || c == '+' || c == '-' || c == '.') = name := by
    rw [List.takeWhile_append_of_pos fun d hd => by
      simp [Char.isAlphanum, (char_facts_of_isLower (hl d hd)).2.2.1]]
    simp
  have hlow : name.map Char.toLower = name :=
    (List.map_congr_left fun d hd => (char_facts_of_isLower (hl d hd)).2.2.2).trans
      (List.map_id' name)
  obtain ⟨c, cs, rfl⟩ := List.exists_cons_of_ne_nil hne
  unfold splitScheme
  rw [List.cons_append]
  dsimp only
  rw [if_neg (by simp [(char_facts_of_isLower (hl c List.mem_cons_self)).2.2.1]),
    ← List.cons_append, hname, List.drop_left, hlow]
  rfl

theorem scheme_of_bind_host {scheme : String} {x : Except UrlError (Option String)} {u : Url}
    (h : (x >>= fun host => pure ⟨scheme, host⟩) = .ok u) : u.scheme = scheme := by
  cases x with
  | error e => cases h
  | ok host =>
    cases h
    rfl

theorem Url.scheme_of_parse {input : String} {u : Url} (h : Url.parse input = .ok u) :
    ∃ rest, splitScheme (Url.clean input) = some (u.scheme, rest) := by
  unfold Url.parse at h
  rcases hs : splitScheme (Url.clean input) with _ | ⟨scheme, rest⟩
  · rw [hs] at h
    cases h
  · refine ⟨rest, ?_⟩
    rw [hs] at h
    dsimp only at h
    -- every branch that reads a url returns the scheme split off, with the host it reads
    split at h
    · rw [scheme_of_bind_host h]
    split at h
    · rw [scheme_of_bind_host h]
    split at h
    · rw [scheme_of_bind_host h]
    · cases h
      rfl

/-- The client's parser reads a scheme written in lowercase letters as it is written. -/
theorem Url.parse_readsLowerScheme : ReadsLowerScheme Url.parse := by
  intro scheme rest u hne hl hp
  have hname : scheme.toList ≠ [] := by simpa using hne
  have hinput : scheme ++ ":" ++ rest = String.ofList (scheme.toList ++ ':' :: rest.toList) := by
    apply String.toList_inj.1
    simp
  obtain ⟨more, hsplit⟩ := Url.scheme_of_parse hp
  obtain ⟨more', hclean⟩ := Url.clean_of_lower_scheme hname hl rest.toList
  rw [hinput, hclean, splitScheme_of_lower_scheme hname hl, String.ofList_toList] at hsplit
  exact (Prod.mk.inj (Option.some.inj hsplit)).1.symm

/-! ## The plain forms -/

/-- A broker url in a plain form of the documentation: `folkmq:` and a transport url whose scheme,
`tcp`, `ws` or `wss`, is written in lowercase and followed by two slashes, or `folkmq://` and a
TCP address. -/
def PlainForm (url scheme rest : String) : Prop :=
  scheme ∈ ["tcp", "ws", "wss"] ∧
    (url = "folkmq:" ++ scheme ++ "://" ++ rest ∨ scheme = "tcp" ∧ url = "folkmq://" ++ rest)

/-- What the documentation promises of an endpoint: `sd:`, one of the schemes `tcp`, `ws` and
`wss`, and two slashes, where the text after `sd:` is read with that scheme and a nonempty
host. -/
def Promised (parse : String → Except UrlError Url) (out : String) : Prop :=
  ∃ s ∈ ["tcp", "ws", "wss"], ∃ rest h, out = "sd:" ++ s ++ "://" ++ rest ∧
    parse (s ++ "://" ++ rest) = .ok ⟨s, some h⟩ ∧ h ≠ ""

section Forms

variable {parse : String → Except UrlError Url} {url s rest : String}

theorem lower_of_mem_schemes (hs : s ∈ ["tcp", "ws", "wss"]) :
    s ≠ "" ∧ ∀ c ∈ s.toList, c.isLower = true := by
  simp only [List.mem_cons, List.not_mem_nil, or_false] at hs
  rcases hs with rfl | rfl | rfl <;> simp [Char.isLower]

theorem transportUrl_plain (h : PlainForm url s rest) :
    transportUrl url = some (s ++ "://" ++ rest) := by
  obtain ⟨hs, hurl | ⟨rfl, hurl⟩⟩ := h
  · -- a scheme starts with a letter, so the text after `folkmq:` is taken as it is
    have hw : writtenTransport (s ++ "://" ++ rest) = s ++ "://" ++ rest := by
      rw [writtenTransport, if_neg]
      simp only [List.mem_cons, List.not_mem_nil, or_false] at hs
      rcases hs with rfl | rfl | rfl <;> simp
    have hu : url = "folkmq:" ++ (s ++ "://" ++ rest) := by
      rw [hurl]
      simp only [String.append_assoc]
    rw [hu, transportUrl_broker, hw]
  · have hw : writtenTransport ("//" ++ rest) = "tcp" ++ "://" ++ rest := by
      rw [writtenTransport, if_pos (by simp)]
      exact String.toList_inj.1 (by simp)
    have hu : url = "folkmq:" ++ ("//" ++ rest) := by
      rw [hurl]
      exact String.toList_inj.1 (by simp)
    rw [hu, transportUrl_broker, hw]

/-- A url in a plain form resolves exactly when its transport url is read with a nonempty host,
and then to `sd:`, its scheme, two slashes and the rest as written. -/
theorem resolveWith_plain_iff (hp : ReadsLowerScheme parse) (h : PlainForm url s rest)
    {out : String} :
    resolveWith parse url = .ok out ↔ out = "sd:" ++ s ++ "://" ++ rest ∧
      ∃ host, parse (s ++ "://" ++ rest) = .ok ⟨s, some host⟩ ∧ host ≠ "" := by
  have hout : "sd:" ++ (s ++ "://" ++ rest) = "sd:" ++ s ++ "://" ++ rest := by
    simp only [String.append_assoc]
  rw [resolveWith_eq_ok_iff_parse (transportUrl_plain h), hout]
  refine and_congr_right fun _ => ⟨?_, ?_⟩
  · rintro ⟨⟨scheme, host?⟩, host, hparse, -, hhost, hne⟩
    -- the parser reads the scheme as it is written
    have hsplit : s ++ "://" ++ rest = s ++ ":" ++ ("//" ++ rest) :=
      String.toList_inj.1 (by simp)
    have hscheme := hp s ("//" ++ rest) _ (lower_of_mem_schemes h.1).1
      (lower_of_mem_schemes h.1).2 (hsplit ▸ hparse)
    dsimp only at hscheme hhost
    subst hscheme hhost
    exact ⟨host, hparse, hne⟩
  · rintro ⟨host, hparse, hne⟩
    exact ⟨_, host, hparse, h.1, rfl, hne⟩

/-- Of the urls that resolve, exactly those in a plain form give an endpoint as promised. -/
theorem promised_iff_plain (hp : ReadsLowerScheme parse) {out : String}
    (h : resolveWith parse url = .ok out) :
    Promised parse out ↔ ∃ s rest, PlainForm url s rest := by
  constructor
  · rintro ⟨s, hs, rest, -, hout, -⟩
    obtain ⟨r, rfl, hr, -⟩ := resolveWith_eq_ok_iff.1 h
    -- the endpoint is `sd:` and the transport url as written, which must then be in plain form
    have hw : writtenTransport r = s ++ "://" ++ rest := by
      have := congrArg String.toList (hr.symm.trans hout)
      simp only [String.toList_append, List.append_assoc] at this
      exact String.toList_inj.1 (by simpa using List.append_cancel_left this)
    unfold writtenTransport at hw
    split at hw
    · -- two slashes stand for TCP, whose name no other scheme starts like
      have htcp : s = "tcp" := by
        simp only [List.mem_cons, List.not_mem_nil, or_false] at hs
        rcases hs with rfl | rfl | rfl
        · rfl
        all_goals simpa using congrArg String.toList hw
      subst htcp
      have hr : r.toList = ("//" ++ rest).toList := by simpa using congrArg String.toList hw
      exact ⟨"tcp", rest, hs, .inr ⟨rfl, String.toList_inj.1 (by simp [hr])⟩⟩
    · exact ⟨s, rest, hs, .inl (by rw [hw]; simp only [String.append_assoc])⟩
  · rintro ⟨s, rest, hplain⟩
    obtain ⟨hout, host, hparse, hne⟩ := (resolveWith_plain_iff hp hplain).1 h
    exact ⟨s, hplain.1, rest, host, hout, hparse, hne⟩

end Forms

/-- **Broker urls.** Whatever the url parser, as long as it reads a scheme written in lowercase
letters as written: a url that does not start with `folkmq:` is refused as no broker url; a url
in a plain form resolves exactly when its transport url is read with a nonempty host, and then to
`sd:`, its scheme, two slashes and the rest as written; and of the urls that resolve, exactly
those in a plain form give an endpoint that begins with `sd:tcp://`, `sd:ws://` or `sd:wss://`
naming the scheme the check accepted. -/
theorem resolved_prefix_iff_plain_form {parse : String → Except UrlError Url}
    (hp : ReadsLowerScheme parse) (url : String) :
    ((¬∃ rest, url = "folkmq:" ++ rest) → resolveWith parse url = .error .notBroker) ∧
    (∀ s rest, PlainForm url s rest → ∀ out, resolveWith parse url = .ok out ↔
      out = "sd:" ++ s ++ "://" ++ rest ∧
        ∃ host, parse (s ++ "://" ++ rest) = .ok ⟨s, some host⟩ ∧ host ≠ "") ∧
    ∀ out, resolveWith parse url = .ok out →
      (Promised parse out ↔ ∃ s rest, PlainForm url s rest) :=
  ⟨resolveWith_of_not_broker, fun _ _ h _ => resolveWith_plain_iff hp h,
    fun _ h => promised_iff_plain hp h⟩

/-- The client's parser, and a TCP address written `folkmq://`: it resolves to `sd:tcp://` and
the address, as promised. -/
theorem resolved_prefix_iff_plain_form_tcp :
    ReadsLowerScheme Url.parse ∧ PlainForm "folkmq://broker:18602" "tcp" "broker:18602" ∧
      resolve "folkmq://broker:18602" = .ok "sd:tcp://broker:18602" ∧
      Promised Url.parse "sd:tcp://broker:18602" := by
  have hplain : PlainForm "folkmq://broker:18602" "tcp" "broker:18602" :=
    ⟨by simp, .inr ⟨rfl, rfl⟩⟩
  have hforms := resolved_prefix_iff_plain_form Url.parse_readsLowerScheme "folkmq://broker:18602"
  have hres : resolve "folkmq://broker:18602" = .ok "sd:tcp://broker:18602" :=
    (hforms.2.1 _ _ hplain _).2 ⟨rfl, "broker", rfl, by decide⟩
  exact ⟨Url.parse_readsLowerScheme, hplain, hres, (hforms.2.2 _ hres).2 ⟨_, _, hplain⟩⟩

/-- A TCP url whose scheme is written in capitals is read as TCP and resolves, but its endpoint
keeps the capitals and begins with no promised prefix. -/
theorem resolve_keeps_written_scheme :
    resolve "folkmq:TCP://broker:18602" = .ok "sd:TCP://broker:18602" ∧
      Url.parse "TCP://broker:18602" = .ok ⟨"tcp", some "broker"⟩ ∧
      ¬Promised Url.parse "sd:TCP://broker:18602" := by
  refine ⟨rfl, rfl, ?_⟩
  rintro ⟨s, hs, rest, host, hout, -⟩
  simp only [List.mem_cons, List.not_mem_nil, or_false] at hs
  -- the letter after `sd:` is a capital `T`, which starts none of the schemes
  rcases hs with rfl | rfl | rfl <;> simpa using congrArg String.toList hout

end BrokerClient.Endpoint
