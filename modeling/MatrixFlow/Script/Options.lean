import MatrixFlow.Script.Syntax

/-!
# Options of shells

Options have names, and some of them letters.

* `Options.isOn`, `Options.turn`: an option by its name.
* `settings`: the names that a shell is set by, with their letters.
* `habits`: the further names that the extended dialect knows.
-/

namespace MatrixFlow.Script

/-- The options that are on unless they are turned off. -/
def usualOptions : List String :=
  ["braceexpand", "hashall", "interactive-comments", "checkwinsize", "cmdhist",
    "complete_fullquote", "extquote", "force_fignore", "globasciiranges", "globskipdots",
    "hostcomplete", "interactive_comments", "patsub_replacement", "progcomp", "promptvars",
    "sourcepath"]

namespace Options

/-- The option is on. -/
def isOn (o : Options) : String → Bool
  | "errexit" => o.stopsOnFailure
  | "nounset" => o.needsValues
  | "pipefail" => o.partsCount
  | "noglob" => o.keepsPatterns
  | "xtrace" => o.traces
  | "allexport" => o.exportsAll
  | "noclobber" => o.keepsFiles
  | "errtrace" => o.trapsInside
  | "nullglob" => o.dropsPatterns
  | "failglob" => o.demandsPaths
  | "dotglob" => o.seesHidden
  | "globstar" => o.deepStars
  | "nocasematch" => o.ignoresCase
  | "nocaseglob" => o.pathsIgnoreCase
  | "extglob" => o.groups
  | "expand_aliases" => o.expandsAliases
  | "lastpipe" => o.lastHere
  | name => o.others.contains name != usualOptions.contains name

/-- Turns an option on or off. -/
def turn (on : Bool) (o : Options) : String → Options
  | "errexit" => { o with stopsOnFailure := on }
  | "nounset" => { o with needsValues := on }
  | "pipefail" => { o with partsCount := on }
  | "noglob" => { o with keepsPatterns := on }
  | "xtrace" => { o with traces := on }
  | "allexport" => { o with exportsAll := on }
  | "noclobber" => { o with keepsFiles := on }
  | "errtrace" => { o with trapsInside := on }
  | "nullglob" => { o with dropsPatterns := on }
  | "failglob" => { o with demandsPaths := on }
  | "dotglob" => { o with seesHidden := on }
  | "globstar" => { o with deepStars := on }
  | "nocasematch" => { o with ignoresCase := on }
  | "nocaseglob" => { o with pathsIgnoreCase := on }
  | "extglob" => { o with groups := on }
  | "expand_aliases" => { o with expandsAliases := on }
  | "lastpipe" => { o with lastHere := on }
  | name =>
    let others := o.others.filter (· != name)
    { o with others := if on != usualOptions.contains name then name :: others else others }

end Options

/-- The names that a shell is set by, in the order in which they are shown, with their letters. -/
def settings : Dialect → List (String × Option Char)
  | .plain =>
    [("errexit", some 'e'), ("noglob", some 'f'), ("ignoreeof", some 'I'),
      ("interactive", some 'i'), ("monitor", some 'm'), ("noexec", some 'n'), ("stdin", some 's'),
      ("xtrace", some 'x'), ("verbose", some 'v'), ("vi", some 'V'), ("emacs", some 'E'),
      ("noclobber", some 'C'), ("allexport", some 'a'), ("notify", some 'b'),
      ("nounset", some 'u'), ("privileged", some 'p'), ("nolog", none), ("debug", none)]
  | .extended =>
    [("allexport", some 'a'), ("braceexpand", some 'B'), ("emacs", none), ("errexit", some 'e'),
      ("errtrace", some 'E'), ("functrace", some 'T'), ("hashall", some 'h'),
      ("histexpand", some 'H'), ("history", none), ("ignoreeof", none),
      ("interactive-comments", none), ("keyword", some 'k'), ("monitor", some 'm'),
      ("noclobber", some 'C'), ("noexec", some 'n'), ("noglob", some 'f'), ("nolog", none),
      ("notify", some 'b'), ("nounset", some 'u'), ("onecmd", some 't'), ("physical", some 'P'),
      ("pipefail", none), ("posix", none), ("privileged", some 'p'), ("verbose", some 'v'),
      ("vi", none), ("xtrace", some 'x')]

/-- The further names of the extended dialect, in the order in which they are shown. -/
def habits : List String :=
  ["autocd", "assoc_expand_once", "cdable_vars", "cdspell", "checkhash", "checkjobs",
    "checkwinsize", "cmdhist", "compat31", "compat32", "compat40", "compat41", "compat42",
    "compat43", "compat44", "complete_fullquote", "direxpand", "dirspell", "dotglob", "execfail",
    "expand_aliases", "extdebug", "extglob", "extquote", "failglob", "force_fignore",
    "globasciiranges", "globskipdots", "globstar", "gnu_errfmt", "histappend", "histreedit",
    "histverify", "hostcomplete", "huponexit", "inherit_errexit", "interactive_comments",
    "lastpipe", "lithist", "localvar_inherit", "localvar_unset", "login_shell", "mailwarn",
    "no_empty_cmd_completion", "nocaseglob", "nocasematch", "noexpand_translation", "nullglob",
    "patsub_replacement", "progcomp", "progcomp_alias", "promptvars", "restricted_shell",
    "shift_verbose", "sourcepath", "varredir_close", "xpg_echo"]

/-- The option with a letter, turned on or off. -/
def setLetter (dialect : Dialect) (on : Bool) (o : Options) (c : Char) : Option Options :=
  ((settings dialect).find? fun (_, letter) => letter == some c).map fun (name, _) => o.turn on name

/-- The option with a name, turned on or off. -/
def setNamed (dialect : Dialect) (on : Bool) (o : Options) (name : String) : Option Options :=
  if (settings dialect).any fun (k, _) => k == name then some (o.turn on name) else none

/-- The letters of the options that are on, in the order in which they are shown. -/
def Options.letters (dialect : Dialect) (o : Options) : Octets :=
  match dialect with
  | .plain =>
    (settings .plain).reverse.filterMap fun (name, letter) => letter.filter fun _ => o.isOn name
  | .extended =>
    "abefhikmnptuvxBCEHPT".toList.filter fun c =>
      (settings .extended).any fun (name, letter) => letter == some c && o.isOn name

/-- What options at the start of arguments come to. -/
structure OptionReading where
  options : Options
  /-- The arguments that become the parameters, if there are any. -/
  params : Option (List Octets)
  /-- The names of all settings are to be shown, or the commands that restore them. -/
  shows : Option Bool

/-- Reads the options at the start of arguments. -/
def readOptions (dialect : Dialect) (r : OptionReading) :
    List Octets → Except Octets OptionReading
  | [] => .ok r
  | ['-', '-'] :: rest => .ok { r with params := some rest }
  | ['-'] :: rest =>
    let options := (r.options.turn false "xtrace").turn false "verbose"
    .ok { r with options := options, params := if rest.isEmpty then none else some rest }
  | (sign :: c :: cs) :: rest =>
    if sign == '-' || sign == '+' then
      let on := sign == '-'
      let letters := (c :: cs).filter (· != 'o')
      match letters.foldlM (setLetter dialect on) r.options with
      | none =>
        .error (sign :: ((c :: cs).find? fun c =>
          c != 'o' && (setLetter dialect true r.options c).isNone).toList)
      | some options =>
        if (c :: cs).contains 'o' then
          match rest with
          | name :: rest =>
            match setNamed dialect on options (String.ofList name) with
            | some options => readOptions dialect { r with options := options } rest
            | none => .error (octetsOfName name)
          | [] => .ok { r with options := options, shows := some on }
        else readOptions dialect { r with options := options } rest
    else .ok { r with params := some ((sign :: c :: cs) :: rest) }
  | rest => .ok { r with params := some rest }
where
  /-- A name behind the letter for names. -/
  octetsOfName (name : Octets) : Octets := ['-', 'o', ' '] ++ name

end MatrixFlow.Script
