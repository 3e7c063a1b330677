import AwsCredentials.Proofs.Secrecy.Stages

/-!
# Secrets of a session

The stages joined. Settings that are loaded and settled are twins (`Session.twin_settle`), if no path
that is used asks for a secret (`Config.PlainPaths`), and so are the sessions that are resolved with
them (`Session.twin_resolve`). A session that is a twin gives out credentials that are twins, whether
they come out of its cache or are fetched again (`Cache.twin_serveNext`, `Session.Twin.credentials`).
-/

namespace AwsCredentials

variable {shared : Path → Prop}

/-! ## Loading and settling -/

namespace SharedFiles

theorem Twin.loadFile {files files' : SharedFiles} (h : files.Twin files') (kind : FileKind)
    {path : Path} (hpath : shared path) : Attempt.Twin (secrecy shared) Twin
      (files.loadFile kind path) (files'.loadFile kind path) := by
  unfold SharedFiles.loadFile
  rw [h.paths]
  have hadded : Twin { files with paths := files.paths ++ [path] }
      { files' with paths := files.paths ++ [path] } := ⟨h.profiles, rfl⟩
  refine Attempt.twin_readFile fun r r' hr => ?_
  obtain ⟨hr, hplain⟩ := hr
  cases hr with
  | error e =>
    dsimp only
    split
    · exact .noted (Attempt.twin_pure hadded)
    · exact Attempt.twin_throw _
  | @ok text text' ht =>
    have hmerged := hadded.mergeText kind path ht (hplain hpath text rfl)
    dsimp only
    generalize SharedFiles.mergeText _ kind path (withoutMark text) = r at hmerged ⊢
    generalize SharedFiles.mergeText _ kind path (withoutMark text') = r' at hmerged ⊢
    cases hmerged with
    | error e => exact Attempt.twin_throw _
    | ok hfiles => exact .noted (Attempt.twin_pure hfiles)

/-- Files that are twins are loaded. -/
theorem twin_load {configFiles credentialsFiles : List Path}
    (hconfig : ∀ path ∈ configFiles, shared path)
    (hcredentials : ∀ path ∈ credentialsFiles, shared path) : Attempt.Twin (secrecy shared) Twin
      (load configFiles credentialsFiles) (load configFiles credentialsFiles) := by
  have loaded (kind : FileKind) {paths : List Path} (hpaths : ∀ path ∈ paths, shared path)
      {files files' : SharedFiles} (h : files.Twin files') : Attempt.Twin (secrecy shared) Twin
        (paths.foldlM (·.loadFile kind ·) files) (paths.foldlM (·.loadFile kind ·) files') :=
    Attempt.twin_foldlM (fun path hpath _ _ h => h.loadFile kind (hpaths path hpath)) h
  exact (loaded .config hconfig ⟨.nil, rfl⟩).bind fun _ _ h => loaded .credentials hcredentials h

end SharedFiles

/-- The paths of the files that hold the settings of a configuration. -/
def Config.settingsPaths (config : Config) (env : Environment) : List Path :=
  (if config.configFiles.isEmpty then env.configFile?.toList else config.configFiles) ++
    if config.credentialsFiles.isEmpty then env.credentialsFile?.toList else config.credentialsFiles

/-- Whether no path that a configuration uses asks for a secret. -/
structure Config.PlainPaths (config : Config) (env : Environment) : Prop where
  settings : ∀ path ∈ config.settingsPaths env, path.Plain
  token : PlainTokenFile config.webRole

/-- The places where the settings of a configuration are looked for. -/
def Config.Shares (config : Config) (env : Environment) (path : Path) : Prop :=
  path ∈ (config.settingsPaths env).map (Path.expand · env)

section

variable {config config' : Config} {env env' : Environment}

theorem Settings.twin_settled {files files' : SharedFiles} (hconfig : config.Twin config')
    (henv : env.Twin env') (hfiles : files.Twin files') (hplain : PlainTokenFile config.webRole) :
    Attempt.Twin (secrecy shared) Settings.Twin (settled config env files)
      (settled config' env' files') := by
  have rest : Attempt.Twin (secrecy shared) Settings.Twin
      (do
        let s ← Attempt.ofExcept (ofParts config env files)
        Attempt.note s.summary
        return s)
      (do
        let s ← Attempt.ofExcept (ofParts config' env' files')
        Attempt.note s.summary
        return s) := by
    refine (Attempt.twin_ofExcept (twin_ofParts hconfig henv hfiles hplain)).bind fun s s' hs => ?_
    rw [hs.eq_of_rest summary fun _ _ _ _ => rfl]
    exact .noted (Attempt.twin_pure hs)
  unfold settled
  rw [fallsBackToDefaultRegion_of_twin hconfig henv hfiles]
  split
  · exact .noted rest
  · exact rest

/-- The settings that are loaded and settled. -/
theorem Settings.twin_resolve (hconfig : config.Twin config') (henv : env.Twin env')
    (hplain : config.PlainPaths env) :
    Attempt.Twin (secrecy (config.Shares env)) Settings.Twin (resolve config env)
      (resolve config' env') := by
  have hconfigFile : env'.configFile? = env.configFile? :=
    henv.settingsFile? (by decide) _
  have hcredentialsFile : env'.credentialsFile? = env.credentialsFile? :=
    henv.settingsFile? (by decide) _
  have hpaths {paths : List Path} (h : ∀ path ∈ paths, path ∈ config.settingsPaths env) :
      paths.map (Path.expand · env') = paths.map (Path.expand · env) :=
    List.map_congr_left fun path hpath =>
      Path.expand_of_plain (hplain.settings path (h path hpath)) henv
  have hshared {paths : List Path} (h : ∀ path ∈ paths, path ∈ config.settingsPaths env) :
      ∀ path ∈ paths.map (Path.expand · env), config.Shares env path := by
    intro path hpath
    obtain ⟨written, hwritten, rfl⟩ := List.mem_map.1 hpath
    exact List.mem_map_of_mem (h written hwritten)
  have hsettled {files files' : SharedFiles} (hfiles : files.Twin files') :
      Attempt.Twin (secrecy (config.Shares env)) Settings.Twin (settled config env files)
        (settled config' env' files') :=
    twin_settled hconfig henv hfiles hplain.token
  obtain ⟨secret, token, web, rfl, -, -⟩ := hconfig
  unfold resolve
  dsimp only
  rw [hconfigFile, hcredentialsFile, hpaths fun _ => List.mem_append_left _,
    hpaths fun _ => List.mem_append_right _]
  exact (SharedFiles.twin_load (hshared fun _ => List.mem_append_left _)
    (hshared fun _ => List.mem_append_right _)).bind fun files files' hfiles => hsettled hfiles

theorem Session.twin_settle (hconfig : config.Twin config') (henv : env.Twin env')
    (hplain : config.PlainPaths env) :
    Attempt.Twin (secrecy (config.Shares env)) Settings.Twin (settle config env)
      (settle config' env') := by
  refine (Settings.twin_resolve hconfig henv hplain).bind fun s s' hs => ?_
  rw [hs.eq_of_rest Settings.roles fun _ _ _ _ => rfl,
    hs.eq_of_rest Settings.region fun _ _ _ _ => rfl]
  exact (Attempt.twin_ofExcept (.same _)).bind fun _ _ _ => .noted (Attempt.twin_pure hs)

end

/-! ## Sessions -/

namespace Cache

/-- Two caches with the same line, and with credentials that differ at most in their secrets. -/
structure Twin (cache cache' : Cache) : Prop where
  stored : Option.Rel Credentials.Twin cache.stored cache'.stored
  waiting : cache'.waiting = cache.waiting
  fetching : cache'.fetching = cache.fetching

/-- The same becomes of a caller, who gets credentials that differ at most in their secrets. -/
inductive Granted.Twin : Granted → Granted → Prop
  | served {c c' : Credentials} (id : Nat) : c.Twin c' → Twin (.served id c) (.served id c')
  | invalidated (id : Nat) : Twin (.invalidated id) (.invalidated id)
  | fetches (id : Nat) (expired : Bool) : Twin (.fetches id expired) (.fetches id expired)

theorem good?_of_twin {stored stored' : Option Credentials}
    (h : Option.Rel Credentials.Twin stored stored') (now : Instant) :
    Option.Rel Credentials.Twin (good? stored now) (good? stored' now) := by
  cases h with
  | none => exact .none
  | @some c c' hc =>
    obtain ⟨secret, token, rfl⟩ := hc
    have hexpired : Credentials.expiredAt { c with secretAccessKey := secret, sessionToken := token }
        now buffer = c.expiredAt now buffer := rfl
    unfold good?
    rw [Option.filter_some, Option.filter_some, hexpired]
    split
    · exact .some ⟨secret, token, rfl⟩
    · exact .none

namespace Twin

variable {cache cache' : Cache}

theorem arrive (h : cache.Twin cache') (caller : CacheCaller) :
    (cache.arrive caller).Twin (cache'.arrive caller) :=
  ⟨h.stored, congrArg (· ++ [caller]) h.waiting, h.fetching⟩

theorem complete (h : cache.Twin cache') {r r' : Except Error Credentials}
    (hr : SameEnd Credentials.Twin r r') : (cache.complete r).Twin (cache'.complete r') := by
  cases hr with
  | error e => exact ⟨h.stored, h.waiting, rfl⟩
  | ok hc => exact ⟨.some hc, h.waiting, rfl⟩

theorem grant (h : cache.Twin cache') (now : Instant) :
    (cache.grant now).1.Twin (cache'.grant now).1 ∧
      Option.Rel Granted.Twin (cache.grant now).2 (cache'.grant now).2 := by
  have hgood := good?_of_twin h.stored now
  have hset : cache'.stored.isSome = cache.stored.isSome := isSome_of_rel h.stored
  unfold Cache.grant
  rw [h.fetching, h.waiting]
  cases cache.fetching with
  | some id => exact ⟨h, .none⟩
  | none =>
    cases cache.waiting with
    | nil => exact ⟨h, .none⟩
    | cons caller rest =>
      dsimp only
      cases caller.request with
      | invalidation => exact ⟨⟨.none, rfl, rfl⟩, .some (.invalidated _)⟩
      | credentials =>
        generalize good? cache.stored now = good at hgood ⊢
        generalize good? cache'.stored now = good' at hgood ⊢
        cases hgood with
        | some hc => exact ⟨⟨h.stored, rfl, rfl⟩, .some (.served _ hc)⟩
        | none => exact ⟨⟨h.stored, rfl, rfl⟩, .some (hset ▸ .fetches _ _)⟩

end Twin

/-- Serving two caches that are twins. -/
theorem twin_serveNext {fetch fetch' : ServiceAttempt Credentials}
    (hfetch : Attempt.Twin (secrecy shared) Credentials.Twin fetch fetch') {cache cache' : Cache}
    (h : cache.Twin cache') : Task.Twin (secrecy shared)
      (fun r r' => r.1.Twin r'.1 ∧ Option.Rel (SameEnd Credentials.Twin) r.2 r'.2)
      (serveNext fetch cache) (serveNext fetch' cache') := by
  unfold serveNext
  refine Task.twin_now fun now => ?_
  obtain ⟨hcache, hgranted⟩ := h.grant now
  generalize cache.grant now = granted at hcache hgranted ⊢
  generalize cache'.grant now = granted' at hcache hgranted ⊢
  obtain ⟨cache, granted⟩ := granted
  obtain ⟨cache', granted'⟩ := granted'
  dsimp only at hcache hgranted ⊢
  cases hgranted with
  | none => exact .done ⟨hcache, .none⟩
  | some hgranted =>
    cases hgranted with
    | served id hc => exact .done ⟨hcache, .some (.ok hc)⟩
    | invalidated id => exact .done ⟨hcache, .none⟩
    | fetches id expired =>
      have rest : Task.Twin (secrecy shared)
          (fun r r' => r.1.Twin r'.1 ∧ Option.Rel (SameEnd Credentials.Twin) r.2 r'.2)
          (do let result ← fetch.run; return (cache.complete result, some result))
          (do let result ← fetch'.run; return (cache'.complete result, some result)) :=
        Task.Twin.bind hfetch fun r r' hr => .done ⟨hcache.complete hr, .some hr⟩
      cases expired
      · exact rest
      · exact .noted rest

end Cache

namespace Session

/-- Two sessions that differ at most in their secrets. -/
structure Twin (s s' : Session) : Prop where
  same : ∃ settings cache, s' = { s with settings, cache }
  settings : s.settings.Twin s'.settings
  cache : s.cache.Twin s'.cache

theorem twin_validate {s s' : Settings} (hs : s.Twin s') (retry : RetryPolicy) {c c' : Credentials}
    (h : c.Twin c') :
    Attempt.Twin (secrecy shared) Eq (validate s retry c) (validate s' retry c') := by
  unfold validate
  rw [hs.eq_of_rest Settings.skipValidation fun _ _ _ _ => rfl]
  split
  · exact .noted (Attempt.twin_pure rfl)
  · exact (RetryPolicy.twin_validate h).bind fun caller _ heq => heq ▸ Attempt.twin_pure rfl

theorem twin_resolveWith {s s' : Settings} (hs : s.Twin s') (retry : RetryPolicy) :
    Attempt.Twin (secrecy shared) Twin (resolveWith s retry) (resolveWith s' retry) := by
  unfold resolveWith
  rw [hs.eq_of_rest Settings.region fun _ _ _ _ => rfl,
    hs.eq_of_rest Settings.skipAccountLookup fun _ _ _ _ => rfl]
  refine hs.fetch.bind fun c c' hc => ?_
  refine (twin_validate hs retry hc).bind fun caller _ heq => heq ▸ ?_
  refine (Attempt.twin_ofTask (RetryPolicy.twin_findAccount hc _ _ _)).bind fun lookup _ heq =>
    heq ▸ ?_
  rw [hc.origin]
  exact .noted (Attempt.twin_pure ⟨⟨_, _, rfl⟩, hs, ⟨.some hc, rfl, rfl⟩⟩)

/-- Sessions are resolved alike. -/
theorem twin_resolve {config config' : Config} {env env' : Environment}
    (hconfig : config.Twin config') (henv : env.Twin env') (hplain : config.PlainPaths env)
    (retry : Option RetryPolicy) :
    Attempt.Twin (secrecy (config.Shares env)) Twin (resolve config env retry)
      (resolve config' env' retry) := by
  refine (twin_settle hconfig henv hplain).bind fun s s' hs => ?_
  rw [hs.eq_of_rest (retryPolicy retry) fun _ _ _ _ => rfl]
  exact twin_resolveWith hs _

/-- Sessions give out credentials alike. -/
theorem Twin.credentials {s s' : Session} (h : s.Twin s') : Task.Twin (secrecy shared)
    (fun r r' => r.1.Twin r'.1 ∧ Option.Rel (SameEnd Credentials.Twin) r.2 r'.2)
    s.credentials s'.credentials := by
  obtain ⟨⟨settings, cache, rfl⟩, hsettings, hcache⟩ := h
  refine Task.Twin.bind (Cache.twin_serveNext hsettings.fetch (hcache.arrive _)) fun r r' hr => ?_
  exact .done ⟨⟨⟨_, _, rfl⟩, hsettings, hr.1⟩, hr.2⟩

end Session

end AwsCredentials
