/-!
# Powers of numbers

Where the names of `CorePower` are open, a power of a natural number or an integer is that of core,
also beside an algebraic hierarchy that brings in its own.  The two agree; this way the numbers of
the language and the bounds on them are the same terms in every file.
-/

namespace ExprLang.CorePower

attribute [scoped instance (high)] instPowNat

end ExprLang.CorePower
