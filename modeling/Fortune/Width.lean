/-! The bounds of integers of 32 and 64 bits, signed or not. -/
namespace Fortune

def least32 : Int := -2147483648

def greatest32 : Int := 2147483647

def least64 : Int := -9223372036854775808

def greatest64 : Int := 9223372036854775807

def words32 : Nat := 4294967296

def words64 : Nat := 18446744073709551616

/-- The signed integer of 32 bits that differs by a multiple of `words32`. -/
def wrap32 (n : Int) : Int := n.bmod words32

end Fortune
