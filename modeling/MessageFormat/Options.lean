import MessageFormat.Depth
import MessageFormat.Extension
import MessageFormat.Pattern.Parser
import MessageFormat.Registry

/-!
The settings of a formatter.
-/

set_option autoImplicit false

namespace MessageFormat

structure Options where
  fallbackLocale : String := "en"
  requireAllVariables : Bool := false
  customFormatters : List (Value × Offer CustomFormatter) := []
  tagHandlers : List (Value × Offer TagHandler) := []
  nestedSeparator : String := "__"
  maxNestingDepth : Int := Depth.defaultLimit
  maxSourceSize : Int := 10485760
  cacheSize : Int := 1000
  enableCache : Bool := true
  ignoreTags : Bool := false

namespace Options

/-- Limits are positive; the fallback and the separator are not empty. -/
def check (o : Options) : Except Fault Options :=
  if o.fallbackLocale.toList.all Text.isBlank then .error (.value "fallback_locale must not be empty")
  else if o.nestedSeparator.isEmpty then .error (.value "nested_separator must not be empty")
  else if o.maxNestingDepth ≤ 0 then .error (.value "max_nesting_depth must be positive")
  else if o.maxSourceSize ≤ 0 then .error (.value "max_source_size must be positive")
  else if o.cacheSize ≤ 0 then .error (.value "cache_size must be positive")
  else .ok o

def patternSettings (o : Options) : Pattern.Settings where
  maxSize := o.maxSourceSize
  maxDepth := o.maxNestingDepth
  ignoreTags := o.ignoreTags

end Options
end MessageFormat
