import Formwork.Http.Client
import Formwork.Proofs.Codec.Base64Url
import Formwork.Proofs.Http.Params
import Formwork.Proofs.Http.Reach
import Formwork.Proofs.Http.Uri
import Formwork.Proofs.Route.Shape
import Formwork.Proofs.Text.Utf8
import Mathlib.Data.List.TakeWhile

/-! # From a name to a path and back

The name of a route and values for its parameters make up a path. Where values and segments
are unreserved characters, neither the slashes at the ends of a path nor percent-decoding get
in the way: a request for the path arrives at the route with the values that were put in,
unless files come first (`App.urlFor_arrives_iff`).
-/

namespace Formwork

/-- Without a percent sign there is nothing to be decoded. -/
theorem Percent.decode_of_not_mem {bytes : Bytes} (h : 0x25 ∉ bytes) : decode bytes = bytes := by
  induction bytes with
  | nil => exact decode_nil
  | cons b bytes ih =>
      rw [List.mem_cons, not_or] at h
      rw [decode_cons_of_ne (Ne.symm h.1), ih h.2]

namespace Uri

variable {cs : List Char}

theorem isPrintable_of_isUnreserved {c : Char} (h : isUnreserved c = true) :
    Header.IsPrintable c := by
  rcases Bool.or_eq_true_iff.1 h with h | h
  · -- letters and digits are among the letters of Base64, which are printable
    exact (Base64Url.isLetter_of_isAsciiAlnum h).plain.1
  · have hall : Header.IsPrintableText "-._~" := by decide
    exact hall c (List.contains_iff_mem.1 h)

theorem IsRooted.isPrintable (h : IsRooted cs) {c : Char} (hc : c ∈ cs) : Header.IsPrintable c := by
  rcases h.mem hc with rfl | hc
  · decide
  · exact isPrintable_of_isUnreserved hc

theorem IsRooted.isPathChar (h : IsRooted cs) {c : Char} (hc : c ∈ cs) : isPathChar c = true := by
  have hne := fun d => @IsRooted.ne_of_mem cs h c d hc
  have hblank : c.toNat ≠ 32 := fun e => hne ' ' (by decide) (by decide) (Char.toNat_inj.1 e)
  have hlow : 0x21 ≤ c.toNat := by
    have := (h.isPrintable hc).1
    omega
  simp [Uri.isPathChar, hlow, hne '#' (by decide) (by decide), hne '<' (by decide) (by decide),
    hne '>' (by decide) (by decide), hne '?' (by decide) (by decide),
    hne '\x60' (by decide) (by decide)]

theorem IsRooted.isPath {s : String} (h : IsRooted s.toList) : IsPath s := by
  obtain ⟨c, rest, hc, _⟩ := h.exists_eq_cons
  refine ⟨?_, List.all_eq_true.2 fun d hd => h.isPathChar hd⟩
  rw [hc]
  rfl

/-- The path is a target by itself. -/
theorem IsRooted.parse? {s : String} (h : IsRooted s.toList) (hs : s.utf8ByteSize ≤ lengthLimit) :
    Uri.parse? s = some { path := s } :=
  h.isPath.parse? hs

/-- Looking up does not change the path. -/
theorem IsRooted.path_trimmed {u : Uri} (h : IsRooted u.path.toList) : u.trimmed.path = u.path := by
  refine (path_trimmed_eq_iff u).2 (Or.inr ⟨?_, ?_⟩)
  · rw [← Bool.not_eq_true, Text.hasTail, List.isSuffixOf_iff_suffix]
    rintro ⟨init, hi⟩
    refine h.getLast?_ne ?_
    rw [← hi]
    exact List.getLast?_concat
  · obtain ⟨c, rest, hc, hu⟩ := h.exists_eq_cons
    rw [← Bool.not_eq_true, Text.hasHead, List.isPrefixOf_iff_prefix, hc]
    rintro ⟨more, hm⟩
    cases hm
    exact ne_of_isUnreserved hu (by decide) rfl

/-- The characters stand for themselves in a path. -/
theorem IsRooted.text? {s : String} (h : IsRooted ('/' :: s.toList)) :
    PathPattern.text? s.toList = some s := by
  have hprintable : Header.IsPrintableText s :=
    fun c hc => h.isPrintable (List.mem_cons_of_mem _ hc)
  have hpercent : 0x25 ∉ Utf8.encode s := by
    rw [Header.encode_of_isPrintable hprintable]
    intro hm
    obtain ⟨c, hc, he⟩ := List.mem_map.1 hm
    have hn : c.toNat = 0x25 := by
      rw [← Header.toNat_of_isPrintable (hprintable c hc), he]
      rfl
    exact h.ne_of_mem (List.mem_cons_of_mem _ hc) (by decide) (by decide)
      (Char.toNat_inj.1 hn : c = '%')
  have hread := Utf8.decode?_encode s
  rw [← Percent.decode_of_not_mem hpercent] at hread
  exact hread

end Uri

namespace PathShape

variable {shape : PathShape} {values : List (String × String)}

/-- The values that were put in are read again. -/
theorem get?_decodedParams_matched (ha : shape.IsAssignedBy values) (name : String) :
    (decodedParams (shape.matched values)).get? name =
      if name ∈ shape.names then values.lookup name else none := by
  have htext : ∀ key ∈ shape.names,
      PathPattern.text? ((values.lookup key).getD "").toList = values.lookup key := by
    intro key hk
    obtain ⟨n, hn, rfl⟩ := List.mem_map.1 hk
    obtain ⟨value, hl, hrooted⟩ := ha.exists_value n hn
    rw [hl, Option.getD_some, hrooted.text?]
  have hmatched : shape.matched values =
      shape.names.map fun key => (key, ((values.lookup key).getD "").toList) := by
    rw [names, List.map_map]
    rfl
  have hall : ∀ v ∈ shape.matched values, (PathPattern.text? v.2).isSome = true := by
    intro v hv
    obtain ⟨n, hn, rfl⟩ := List.mem_map.1 hv
    obtain ⟨value, hl, _⟩ := ha.exists_value n hn
    rw [ParamName.value, htext n.text (List.mem_map_of_mem hn), hl]
    rfl
  rw [get?_decodedParams hall, hmatched, ← List.map_reverse]
  by_cases hm : name ∈ shape.names
  · rw [List.lookup_graph _ (List.mem_reverse.2 hm), if_pos hm, Option.bind_some]
    exact htext name hm
  · have hnone : (shape.names.reverse.map fun key =>
        (key, ((values.lookup key).getD "").toList)).lookup name = none :=
      Pairs.lookup_eq_none_iff.2 (by simpa using hm)
    rw [hnone, if_neg hm, Option.bind_none]

end PathShape

variable {S : Type}

/-- Files come before the pattern: a pattern for files matches the path too and precedes it. -/
def Server.ServesFilesBefore (server : Server S) (p : PathPattern) (path : String) : Prop :=
  ∃ q mount, (q, Endpoint.files mount) ∈ server.router.entries ∧
    (q.match? path.toList).isSome = true ∧ q.precedes p = true

namespace App

variable {app : App S} {settings : Settings} {server : Server S} {s₀ s₁ : S}
  {r : Route (Middleware S) (Action S)} {shape : PathShape} {values : List (String × String)}

/-- The only route is arrived at under its filled path unless files come first. -/
theorem IsCompiled.arrival?_url_iff (h : app.IsCompiled [r] server.router)
    (hp : PathPattern.parse? r.path = some shape.pattern) (ha : shape.IsAssignedBy values)
    {around : Surroundings} {request : Request} (hm : request.method = r.verb.text)
    (hu : request.uri.path = shape.url values) {params : Dict String} :
    server.arrival? (Server.arriving around request) = some (r.verb, app.targetOf r, params) ↔
      ¬ server.ServesFilesBefore shape.pattern (shape.url values) ∧
        params = decodedParams (shape.matched values) := by
  have hpath : (Server.arriving around request).uri.path = shape.url values := by
    have hrooted : Uri.IsRooted request.uri.path.toList := hu ▸ shape.isRooted_url ha
    exact hrooted.path_trimmed.trans hu
  have hfirst : (∀ entry ∈ server.router.entries,
      (entry.1.match? (shape.url values).toList).isSome = true →
        entry.1.precedes shape.pattern = false) ↔
      ¬ server.ServesFilesBefore shape.pattern (shape.url values) := by
    constructor
    · rintro hall ⟨q, mount, hq, hmatch, hprecedes⟩
      exact Bool.false_ne_true ((hall _ hq hmatch).symm.trans hprecedes)
    · intro hfiles entry hentry hmatch
      rw [← Bool.not_eq_true]
      intro hprecedes
      obtain ⟨found, hfound, hpattern, _⟩ | ⟨mount, hmount⟩ := h.entries entry hentry
      · -- the other entry is that of the route itself
        cases List.mem_singleton.1 hfound
        rw [hp, Option.some.injEq] at hpattern
        rw [← hpattern, PathPattern.precedes_self] at hprecedes
        cases hprecedes
      · exact hfiles ⟨entry.1, mount, hmount ▸ hentry, hmatch, hprecedes⟩
  rw [h.arrival?_iff (List.mem_singleton_self r) hp
    (show (Server.arriving around request).method = _ from hm), hpath,
    shape.match?_url ha, hfirst, and_comm]
  simp

/-- Without files to serve none come before a route. -/
theorem not_servesFilesBefore (built : (app.build settings).run s₀ = (.ok server, s₁))
    (unserved : settings.staticFiles.isServed = false) (p : PathPattern) (path : String) :
    ¬ server.ServesFilesBefore p path := by
  rintro ⟨q, mount, hq, _⟩
  have hmount := (isBuilt_of_build built).files _ hq mount rfl
  simp [mount?, unserved] at hmount

/-- The only route of an application has segments of unreserved characters and parameters, and
perhaps a last parameter for all that is left. Whatever unreserved characters are put in, a
request for the path that is made arrives at the route, unless files come first. Whoever is
called in the chain then finds exactly the values that were put in. -/
theorem urlFor_arrives_iff (built : (app.build settings).run s₀ = (.ok server, s₁))
    (only : app.routes.resolve = [r]) (declared : r.path = shape.text)
    (named : r.name.isEmpty = false) (assigned : shape.IsAssignedBy values) :
    server.site.routes.urlFor r.name values = .ok (shape.url values) ∧
      ((shape.url values).utf8ByteSize ≤ Uri.lengthLimit →
        Client.getRequest? (shape.url values) =
          some { method := "GET", uri := { path := shape.url values } }) ∧
      ∀ (around : Surroundings) (request : Request), request.method = r.verb.text →
        request.uri.path = shape.url values →
        ((∃ params, server.arrival? (Server.arriving around request) =
            some (r.verb, app.targetOf r, params)) ↔
          ¬ server.ServesFilesBefore shape.pattern (shape.url values)) ∧
        ∀ params, server.arrival? (Server.arriving around request) =
            some (r.verb, app.targetOf r, params) →
          server.route around (Server.arriving around request) =
            (app.targetOf r).dispatch server.panicHandler server.site around.now params
              (Server.arriving around request) ∧
          ∀ passed rest state c t, app.middlewares ++ r.middlewares = passed ++ rest →
            (∀ m ∈ passed, Middleware.KeepsParams m) →
            Target.Passes passed ((app.targetOf r).start server.site around.now params
              (Server.arriving around request)) state c t →
            ∀ name, c.params.get? name =
              if name ∈ shape.names then values.lookup name else none := by
  have hb := isBuilt_of_build built
  have hr : r ∈ app.routes.resolve := only ▸ List.mem_singleton_self r
  have hrouter := hb.router
  rw [only] at hrouter
  obtain ⟨p, hp, _⟩ := hrouter.covers r (List.mem_singleton_self r)
  obtain ⟨rfl, hnames⟩ := shape.eq_pattern_of_parse? (declared ▸ hp)
  have hiff := fun around request hm hu => @IsCompiled.arrival?_url_iff S app server r shape values
    hrouter hp assigned around request hm hu
  refine ⟨?_, fun hs => ?_, fun around request hm hu => ⟨?_, fun params ha => ⟨?_, ?_⟩⟩⟩
  · have hname := (RouteTable.get?_of_foldlM_add hb.routes).2 r hr named
    rw [declared] at hname
    have hfilled := shape.fillsTo_url hnames assigned
    rw [RouteTable.urlFor_of_fillsTo hname hfilled, String.ofList_toList]
  · rw [Client.getRequest?, (shape.isRooted_url assigned).parse? hs]
    rfl
  · exact ⟨fun ⟨params, ha⟩ => ((hiff around request hm hu).1 ha).1,
      fun hf => ⟨_, (hiff around request hm hu).2 ⟨hf, rfl⟩⟩⟩
  · exact Server.route_of_arrival? ha
  · intro passed rest state c t _ hkeeps hpasses name
    have hparams := ((hiff around request hm hu).1 ha).2
    rw [hpasses.params hkeeps, ← shape.get?_decodedParams_matched assigned, ← hparams]
    rfl

/-! ## Files of users -/

def archive : App Unit :=
  { routes := .mk "" "" [] []
      [.mk "/users/\x7bid\x7d" "" [] [page "/files/\x7b*rest\x7d" "file"] []] }

def file : Route (Middleware Unit) (Action Unit) :=
  page "/users/\x7bid\x7d/files/\x7b*rest\x7d" "file"

def archiveShape : PathShape where
  parts := [.literal ⟨"users", by decide⟩, .param ⟨"id", by decide⟩, .literal ⟨"files", by decide⟩]
  rest := some ⟨"rest", by decide⟩
  nonempty := Or.inl (List.cons_ne_nil _ _)

theorem isAssignedBy_archiveShape :
    archiveShape.IsAssignedBy [("id", "7"), ("rest", "a/b.txt")] where
  segments := by
    intro part hpart n hn
    simp only [archiveShape, List.mem_cons, List.not_mem_nil, or_false] at hpart
    obtain rfl | rfl | rfl := hpart
    · cases hn
    · cases hn
      exact ⟨"7", rfl, by decide⟩
    · cases hn
  rest := by
    intro n hn
    cases hn
    refine ⟨"a/b.txt", rfl, ["a", "b.txt"], List.cons_ne_nil _ _, ?_, rfl⟩
    simp only [List.forall_mem_cons]
    exact ⟨by decide, by decide, nofun⟩

/-- The path of a file leads to the file. -/
theorem archive_file_arrives :
    ∃ server params, (archive.build {}).run () = (.ok server, ()) ∧
      server.site.routes.urlFor "file" [("id", "7"), ("rest", "a/b.txt")] =
        .ok "/users/7/files/a/b.txt" ∧
      server.arrival? (Server.arriving ⟨1000, "a", {}⟩ (asking "/users/7/files/a/b.txt")) =
        some (.get, archive.targetOf file, params) ∧
      params.get? "id" = some "7" ∧ params.get? "rest" = some "a/b.txt" := by
  obtain ⟨server, hb⟩ : ∃ server, (archive.build {}).run () = (.ok server, ()) := ⟨_, rfl⟩
  obtain ⟨hurl, _, hall⟩ := @urlFor_arrives_iff Unit archive {} server () () file archiveShape _ hb
    rfl rfl rfl isAssignedBy_archiveShape
  obtain ⟨hiff, hparams⟩ := hall ⟨1000, "a", {}⟩ (asking "/users/7/files/a/b.txt") rfl rfl
  obtain ⟨params, ha⟩ := hiff.2 (not_servesFilesBefore hb rfl _ _)
  obtain ⟨_, hseen⟩ := hparams params ha
  have hget := hseen [] [] () _ () rfl nofun (.nil _ _)
  exact ⟨server, params, hb, hurl, ha, hget "id", hget "rest"⟩

def braced : App Unit :=
  { routes := .mk "" "" [] [page "/\x7ba\x7bb\x7d/\x7bb\x7d" "page"] [] }

def shelf : App Unit :=
  { routes := .mk "" "" [] [page "/\x7ba\x7d/\x7bb\x7d" "page"] [] }

/-- A name with a brace is read in two ways: the path that is made still has it, and the
action sees another value. And where files are served, a path that is made may lead to them. -/
theorem braced_and_shelf_misled :
    (∃ server params, (braced.build {}).run () = (.ok server, ()) ∧
      PathPattern.parse? "/\x7ba\x7bb\x7d/\x7bb\x7d" =
        some [.char '/', .segment "a\x7bb", .char '/', .segment "b"] ∧
      server.site.routes.urlFor "page" [("a\x7bb", "x"), ("b", "y")] = .ok "/\x7bay/y" ∧
      server.arrival? (Server.arriving ⟨1000, "a", {}⟩ (asking "/\x7bay/y")) =
        some (.get, braced.targetOf (page "/\x7ba\x7bb\x7d/\x7bb\x7d" "page"), params) ∧
      params.get? "a\x7bb" = some "\x7bay") ∧
    ∃ server, (shelf.build { staticFiles := ⟨"/files", "public"⟩ }).run () = (.ok server, ()) ∧
      server.site.routes.urlFor "page" [("a", "files"), ("b", "y")] = .ok "/files/y" ∧
      server.arrival? (Server.arriving ⟨1000, "a", {}⟩ (asking "/files/y")) = none ∧
      ∃ tail, server.router.find? "/files/y" = some (tail, .files "/files") := by
  constructor
  · refine ⟨_, decodedParams [("a\x7bb", "\x7bay".toList), ("b", "y".toList)], rfl, rfl, ?_, rfl,
      ?_⟩
    · decide +kernel
    · decide +kernel
  · exact ⟨_, rfl, by decide +kernel, rfl, _, rfl⟩

end App

end Formwork
